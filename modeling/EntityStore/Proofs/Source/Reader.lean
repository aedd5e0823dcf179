import EntityStore.Proofs.Source.Name
import EntityStore.Source.Reader

/-! The names among the tokens of a text.
A name in a text reaches as far as characters go on with it, so that what is read as a name is one:
an identifier, or the marks of a raw name and an identifier that may be raw.
-/

namespace EntityStore.Source

open Text

-----------------------------------------------------------------------------------------
-- Tokens
-----------------------------------------------------------------------------------------

mutual
/-- The name in the token, or every name inside of it, is a name. -/
def Token.Named : Token → Prop
  | .name text => IsName text
  | .group _ contents => AllNamed contents
  | _ => True

/-- Every name among the tokens and inside of them is a name. -/
def AllNamed : List Token → Prop
  | [] => True
  | token :: rest => token.Named ∧ AllNamed rest
end

variable {tokens : List Token}

@[simp] theorem allNamed_nil : AllNamed [] ↔ True := by
  simp [AllNamed]

@[simp] theorem allNamed_cons (token : Token) (rest : List Token)
    : AllNamed (token :: rest) ↔ token.Named ∧ AllNamed rest := by
  simp [AllNamed]

@[simp] theorem Token.named_name (text : String) : (Token.name text).Named ↔ IsName text := by
  simp [Token.Named]

@[simp] theorem Token.named_group (delimiter : Delimiter) (contents : List Token)
    : (Token.group delimiter contents).Named ↔ AllNamed contents := by
  simp [Token.Named]

theorem allNamed_iff : AllNamed tokens ↔ ∀ token ∈ tokens, token.Named := by
  induction tokens with
  | nil => simp
  | cons token rest ih => simp [ih]

theorem AllNamed.reverse (named : AllNamed tokens) : AllNamed tokens.reverse :=
  allNamed_iff.mpr fun token member => allNamed_iff.mp named token (List.mem_reverse.mp member)

theorem AllNamed.append {others : List Token} (named : AllNamed tokens)
    (othersNamed : AllNamed others)
    : AllNamed (tokens ++ others) := by
  rw [allNamed_iff] at named othersNamed ⊢
  exact List.forall_mem_append.mpr ⟨named, othersNamed⟩

/-- A rest of named tokens is named. -/
theorem AllNamed.of_suffix {rest : List Token} (named : AllNamed tokens) (suffix : rest <:+ tokens)
    : AllNamed rest :=
  allNamed_iff.mpr fun token member => allNamed_iff.mp named token (suffix.mem member)

-----------------------------------------------------------------------------------------
-- Names in a text
-----------------------------------------------------------------------------------------

private theorem takenUntil_append (before rest : List Char)
    : takenUntil (before ++ rest) rest = String.ofList before := by
  simp [takenUntil]

/-- What is read as a plain name is an identifier. -/
private theorem identifier_of_plainName {input rest : List Char} (found : plainName input = some rest)
    : ∃ taken, input = taken ++ rest ∧ isIdentifier (String.ofList taken) := by
  cases input with
  | nil => contradiction
  | cons c others =>
      simp only [plainName, Option.ite_none_right_eq_some, Option.some.injEq] at found
      obtain ⟨starts, rfl⟩ := found
      refine ⟨c :: others.takeWhile continuesIdentifier, ?_, ?_⟩
      · rw [List.cons_append, List.takeWhile_append_dropWhile]
      · exact isIdentifier_iff.mpr
          ⟨c, _, String.toList_ofList, starts, List.all_takeWhile⟩

/-- What is read as a name is one. -/
theorem isName_of_anyName {input rest : List Char} {name : String}
    (found : anyName input = some (name, rest))
    : IsName name := by
  unfold anyName at found
  split at found
  next others =>
    obtain ⟨after, plain, found⟩ := Option.bind_eq_some_iff.mp found
    obtain ⟨taken, rfl, identifier⟩ := identifier_of_plainName plain
    rw [takenUntil_append] at found
    split_ifs at found with never
    cases found
    have marked : (takenUntil ('r' :: '#' :: (taken ++ rest)) rest).toList = 'r' :: '#' :: taken := by
      rw [← List.cons_append, ← List.cons_append, takenUntil_append, String.toList_ofList]
    have bare : bareName (takenUntil ('r' :: '#' :: (taken ++ rest)) rest) = String.ofList taken := by
      rw [← String.toList_inj, toList_bareName marked, String.toList_ofList]
    rw [isName_iff_of_raw (isRaw_iff.mpr ⟨taken, marked⟩), bare]
    exact ⟨identifier, never⟩
  next =>
    obtain ⟨after, plain, found⟩ := Option.bind_eq_some_iff.mp found
    obtain ⟨taken, parts, identifier⟩ := identifier_of_plainName plain
    cases found
    rw [parts, takenUntil_append]
    exact isName_of_isIdentifier identifier

-----------------------------------------------------------------------------------------
-- Texts
-----------------------------------------------------------------------------------------

private theorem named_of_markOrLifetime {input rest : List Char} {token : Token}
    (found : markOrLifetime input = some (token, rest))
    : token.Named := by
  unfold markOrLifetime at found
  split at found
  next others =>
    obtain ⟨⟨name, after⟩, -, found⟩ := Option.bind_eq_some_iff.mp found
    dsimp only at found
    split at found
    · contradiction
    · split_ifs at found
      cases found
      trivial
    · cases found
      trivial
  next =>
    split_ifs at found
    cases found
    trivial
  next => contradiction

/-- Among the tokens that are no groups, only names hold names. -/
private theorem named_of_leaf {input rest : List Char} {token : Token}
    (found : leaf input = some (token, rest))
    : token.Named := by
  unfold leaf at found
  cases literal : literalEnd input with
  | some after =>
      rw [literal] at found
      cases found
      trivial
  | none =>
      rw [literal] at found
      cases mark : markOrLifetime input with
      | some result =>
          rw [mark] at found
          cases found
          exact named_of_markOrLifetime mark
      | none =>
          rw [mark] at found
          change nameToken input = some (token, rest) at found
          unfold nameToken at found
          split_ifs at found
          obtain ⟨⟨name, after⟩, read, same⟩ := Option.map_eq_some_iff.mp found
          cases same
          exact (Token.named_name name).mpr (isName_of_anyName read)

/-- The only name in the attribute of a comment is that of the attribute. -/
private theorem allNamed_docAttribute (inner : Bool) (text : List Char)
    : AllNamed (docAttribute inner text) := by
  have outerMark : "#".splitOn " " = ["#"] := by
    simp +decide [String.splitOn, String.splitOnAux]
  have innerMarks : "# !".splitOn " " = ["#", "!"] := by
    simp +decide [String.splitOn, String.splitOnAux]
  have key : "doc =".splitOn " " = ["doc", "="] := by
    simp +decide [String.splitOn, String.splitOnAux]
  have named : IsName "doc" := isName_of_isIdentifier (by decide)
  cases inner <;>
    simp [docAttribute, code, brackets, outerMark, innerMarks, key, wordTokens, marks,
      Token.Named, named]

/-- Witness: induction on the steps; the tokens before and inside of open groups are named. -/
private theorem allNamed_of_readWithin {bound : Nat} {outer : List (Delimiter × List Token)}
    {done : List Token} {input : List Char} {tokens : List Token}
    (outerNamed : ∀ group ∈ outer, AllNamed group.2) (doneNamed : AllNamed done)
    (found : readWithin bound outer done input = some tokens)
    : AllNamed tokens := by
  fun_induction readWithin bound outer done input with
  | case1 | case3 | case9 | case10 => contradiction
  | case2 =>
      cases found
      exact doneNamed.reverse
  | case4 _ _ _ _ _ _ ih => exact ih outerNamed doneNamed found
  | case5 _ _ _ _ _ _ _ _ ih => exact ih outerNamed doneNamed found
  | case6 _ _ _ _ _ _ _ _ _ _ _ ih =>
      exact ih outerNamed ((allNamed_docAttribute _ _).reverse.append doneNamed) found
  | case7 _ _ _ _ _ _ _ _ _ _ ih =>
      exact ih (List.forall_mem_cons.mpr ⟨doneNamed, outerNamed⟩) (by simp) found
  | case8 _ _ _ _ _ _ _ _ _ _ _ _ ih =>
      obtain ⟨beforeNamed, othersNamed⟩ := List.forall_mem_cons.mp outerNamed
      exact ih othersNamed (by simpa using ⟨doneNamed.reverse, beforeNamed⟩) found
  | case11 _ _ _ _ _ _ _ _ _ _ ih =>
      obtain ⟨⟨token, after⟩, read, found⟩ := Option.bind_eq_some_iff.mp found
      exact ih token after outerNamed (by simpa using ⟨named_of_leaf read, doneNamed⟩) found

/-- Every name among the tokens of a text is a name. -/
theorem allNamed_of_read? {text : String} (found : read? text = some tokens) : AllNamed tokens :=
  allNamed_of_readWithin (by simp) (by simp) found

end EntityStore.Source
