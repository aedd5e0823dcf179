import EntityStore.Proofs.Json.Literal
import EntityStore.Proofs.Json.Quote

/-! The text of a document is read as the document.
The text is cut into the tokens that spell the document, and these are read by descent within the bound
that their number gives. Strings without content and numbers that are no literals are the only parts
without a text of their own.
-/

namespace EntityStore.Json

/-- A document that its text holds: its strings have content and its numbers are literals. -/
inductive Written : Json → Prop
  | null : Written .null
  | bool (value : Bool) : Written (.bool value)
  | number {literal : String} (form : IsLiteral literal) : Written (.number literal)
  | text (content : String) : Written (.text content)
  | array {elements : List Json} (parts : ∀ element ∈ elements, Written element)
      : Written (.array elements)
  | object {members : List (Option String × Json)} (keys : ∀ member ∈ members, member.1.isSome = true)
      (parts : ∀ member ∈ members, Written member.2)
      : Written (.object members)

/-- A structure is written where its fields are. -/
theorem Written.record {fields : List (String × Json)}
    (parts : ∀ field ∈ fields, Written field.2)
    : Written (.record fields) := by
  refine .object (fun member stands => ?_) (fun member stands => ?_)
  all_goals obtain ⟨field, inside, rfl⟩ := List.mem_map.mp stands
  · rfl
  · exact parts field inside

-----------------------------------------------------------------------------------------
-- Tokens
-----------------------------------------------------------------------------------------

/-- A text is cut into tokens, with no blanks between them. -/
inductive Cuts : List Char → List Token → Prop
  | nil : Cuts [] []
  | cons {c : Char} {input rest : List Char} {token : Token} {tokens : List Token}
      (visible : isBlank c = false) (scanned : scanToken (c :: input) = some (token, rest))
      (shorter : rest.length ≤ input.length) (more : Cuts rest tokens)
      : Cuts (c :: input) (token :: tokens)

/-- A text has no more tokens than characters.
Witness: induction on the tokens.
-/
theorem Cuts.tokensWithin_eq {input : List Char} {tokens : List Token} (cuts : Cuts input tokens)
    {bound : Nat} (enough : input.length ≤ bound)
    : tokensWithin bound input = some tokens := by
  induction cuts generalizing bound with
  | nil => cases bound <;> rfl
  | @cons c input rest token tokens visible scanned shorter more ih =>
      obtain ⟨bound, rfl⟩ : ∃ less, bound = less + 1 := ⟨bound - 1, by simp at enough; omega⟩
      have found : (c :: input).dropWhile isBlank = c :: input := by simp [visible]
      have later : tokensWithin bound rest = some tokens := ih (by simp at enough; omega)
      unfold tokensWithin
      rw [found]
      simp only [scanned, later, Option.bind_eq_bind, Option.bind_some]
      rfl

theorem Cuts.tokens_eq {input : List Char} {tokens : List Token} (cuts : Cuts input tokens)
    : Json.tokens input = some tokens :=
  cuts.tokensWithin_eq (Nat.le_refl _)

/-- The sign of the structure of a document that a token is. -/
def sign? : Token → Option Char
  | .open false => some '['
  | .close false => some ']'
  | .open true => some '\x7b'
  | .close true => some '\x7d'
  | .colon => some ':'
  | .comma => some ','
  | .atom _ => none

theorem Cuts.sign {token : Token} {c : Char} {rest : List Char} {tokens : List Token}
    (spelled : sign? token = some c) (more : Cuts rest tokens)
    : Cuts (c :: rest) (token :: tokens) := by
  have scanned : isBlank c = false ∧ scanToken (c :: rest) = some (token, rest) := by
    cases token with
    | atom value => cases spelled
    | «open» object => cases object <;> cases spelled <;> exact ⟨by decide, rfl⟩
    | close object => cases object <;> cases spelled <;> exact ⟨by decide, rfl⟩
    | colon => cases spelled; exact ⟨by decide, rfl⟩
    | comma => cases spelled; exact ⟨by decide, rfl⟩
  exact .cons scanned.1 scanned.2 (Nat.le_refl _) more

/-- A string literal is cut out as one token. -/
theorem Cuts.quote (content : String) {rest : List Char} {tokens : List Token}
    (more : Cuts rest tokens)
    : Cuts ((Json.quote content).toList ++ rest) (.atom (.text content) :: tokens) := by
  obtain ⟨pieces, names, scanned⟩ := scanString_flatMap content.toList rest
  have written : (Json.quote content).toList ++ rest
      = '"' :: (content.toList.flatMap escape ++ '"' :: rest) := by
    simp [Json.quote]
  have token : scanToken ('"' :: (content.toList.flatMap escape ++ '"' :: rest))
      = some (.atom (.text content), rest) := by
    simp only [scanToken, scanned, content?_of_names names, Option.bind_eq_bind, Option.bind_some,
      Option.map_some, String.ofList_toList, Json.text]
    rfl
  rw [written]
  exact .cons (by decide) token (by simp; omega) more

/-- What starts like a number is scanned as one. -/
theorem scanToken_number {c : Char} {input : List Char} (start : c = '-' ∨ isDigit c = true)
    : scanToken (c :: input)
      = (scanNumber (c :: input)).map
          (fun (literal, rest) => (.atom (.number (String.ofList literal)), rest)) := by
  have apart (other : Char) (sign : other ≠ '-') (not : isDigit other = false) : c ≠ other := by
    rcases start with rfl | digit
    · exact sign.symm
    · exact ne_of_isDigit digit not
  unfold scanToken
  split
  all_goals first
    | next same => exact absurd (List.cons.inj same).1 (apart _ (by decide) (by decide))
    | skip
  cases scanNumber (c :: input) <;> rfl

/-- A number literal is cut out as one token. -/
theorem Cuts.number {literal : String} (form : IsLiteral literal) {rest : List Char}
    (ends : Ends rest) {tokens : List Token} (more : Cuts rest tokens)
    : Cuts (literal.toList ++ rest) (.atom (.number literal) :: tokens) := by
  obtain ⟨parts, chars⟩ := form
  have scanned := scanNumber_append parts ends
  obtain ⟨c, others, first, start⟩ := parts.chars_head
  rw [chars] at first scanned
  rw [first, List.cons_append] at scanned ⊢
  have token : scanToken (c :: (others ++ rest)) = some (.atom (.number literal), rest) := by
    rw [scanToken_number start, scanned]
    simp only [Option.map_some, ← first, String.ofList_toList]
  have visible : isBlank c = false := by
    rcases start with rfl | digit
    · decide
    · have apart (other : Char) (not : isDigit other = false) := ne_of_isDigit digit not
      simp [isBlank, apart ' ' (by decide), apart '\n' (by decide), apart '\t' (by decide),
        apart '\r' (by decide)]
  exact .cons visible token (by simp) more

-----------------------------------------------------------------------------------------
-- Documents
-----------------------------------------------------------------------------------------

/-- Tokens that a document's text is cut into and that are read as the document. -/
structure Spells (tokens : List Token) (json : Json) : Prop where
  starts : ∃ token rest, tokens = token :: rest ∧ ∀ object, token ≠ .close object
  cuts
    : ∀ {rest : List Char} {more : List Token},
        Ends rest → Cuts rest more → Cuts (json.render.toList ++ rest) (tokens ++ more)
  reads
    : ∀ {bound : Nat} (more : List Token),
        2 * tokens.length ≤ bound → readValue bound (tokens ++ more) = some (json, more)

/-- A part that is one token spells itself. -/
theorem Spells.atom {json : Json}
    (cuts
      : ∀ {rest : List Char} {more : List Token},
          Ends rest → Cuts rest more → Cuts (json.render.toList ++ rest) (.atom json :: more))
    : Spells [.atom json] json where
  starts := ⟨.atom json, [], rfl, by simp⟩
  cuts := cuts
  reads more _ := by simp [readValue]

/-- The sign that ends an array or an object. -/
def closing (object : Bool) : Char :=
  if object then '\x7d' else ']'

theorem Cuts.closing (object : Bool) {rest : List Char} {more : List Token} (cuts : Cuts rest more)
    : Cuts (closing object :: rest) (.close object :: more) := by
  cases object <;> exact cuts.sign rfl

theorem ends_closing (object : Bool) (rest : List Char) : Ends (closing object :: rest) := by
  intro c first
  cases first
  cases object <;> decide

/-- Tokens that the parts of an array or of an object are cut into, and that are read as the parts up to
the closing sign. -/
structure Fills {α : Type} (object : Bool) (text : String)
    (read : Nat → List Token → Option (α × List Token)) (tokens : List Token) (parts : α)
    : Prop where
  starts : ∃ token rest, tokens = token :: rest ∧ ∀ object, token ≠ .close object
  cuts
    : ∀ {rest : List Char} {more : List Token},
        Cuts rest more
        → Cuts (text.toList ++ closing object :: rest) (tokens ++ .close object :: more)
  reads
    : ∀ {bound : Nat} (more : List Token),
        2 * tokens.length + 1 ≤ bound
        → read bound (tokens ++ .close object :: more) = some (parts, more)

variable {tokens others : List Token} {elements : List Json}
  {members : List (Option String × Json)}

/-- Tokens start as the ones do that they are put behind. -/
theorem starts_append
    (starts : ∃ token rest, tokens = token :: rest ∧ ∀ object, token ≠ .close object)
    : ∃ token rest, tokens ++ others = token :: rest ∧ ∀ object, token ≠ .close object := by
  obtain ⟨token, rest, rfl, no⟩ := starts
  exact ⟨token, rest ++ others, rfl, no⟩

theorem Fills.element {json : Json} (spells : Spells tokens json)
    : Fills false (renderElements [json]) readElements tokens [json] where
  starts := spells.starts
  cuts more := spells.cuts (ends_closing false _) (more.closing false)
  reads {bound} more enough := by
    obtain ⟨bound, rfl⟩ : ∃ less, bound = less + 1 := ⟨bound - 1, by omega⟩
    rw [readElements, spells.reads _ (by omega)]
    rfl

theorem Fills.consElement {json : Json} (spells : Spells tokens json) (nonempty : elements ≠ [])
    (fills : Fills false (renderElements elements) readElements others elements)
    : Fills false (renderElements (json :: elements)) readElements (tokens ++ .comma :: others)
        (json :: elements) where
  starts := starts_append spells.starts
  cuts {rest more} cuts := by
    have written : (renderElements (json :: elements)).toList ++ Json.closing false :: rest
        = json.render.toList
          ++ ',' :: ((renderElements elements).toList ++ Json.closing false :: rest) := by
      cases elements with
      | nil => exact absurd rfl nonempty
      | cons next elements => simp [renderElements]
    rw [written, List.append_assoc]
    refine spells.cuts ?_ ((fills.cuts cuts).sign rfl)
    intro c first
    cases first
    decide
  reads {bound} more enough := by
    rw [List.length_append, List.length_cons] at enough
    obtain ⟨bound, rfl⟩ : ∃ less, bound = less + 1 := ⟨bound - 1, by omega⟩
    have later : readElements bound (others ++ .close false :: more) = some (elements, more) :=
      fills.reads more (by omega)
    rw [List.append_assoc, List.cons_append, readElements, spells.reads _ (by omega)]
    simp only [Option.bind_eq_bind, Option.bind_some, later]
    rfl

theorem Fills.member {key : String} {json : Json} (spells : Spells tokens json)
    : Fills true (renderMembers [(some key, json)]) readMembers
        (.atom (.text key) :: .colon :: tokens) [(some key, json)] where
  starts := ⟨_, _, rfl, by simp⟩
  cuts {rest more} cuts := by
    have written : (renderMembers [(some key, json)]).toList ++ Json.closing true :: rest
        = (quote key).toList ++ ':' :: (json.render.toList ++ Json.closing true :: rest) := by
      simp [renderMembers]
    rw [written]
    exact .quote key ((spells.cuts (ends_closing true _) (cuts.closing true)).sign rfl)
  reads {bound} more enough := by
    simp only [List.length_cons] at enough
    obtain ⟨bound, rfl⟩ : ∃ less, bound = less + 1 := ⟨bound - 1, by omega⟩
    rw [List.cons_append, List.cons_append, text, readMembers, spells.reads _ (by omega)]
    rfl

theorem Fills.consMember {key : String} {json : Json} (spells : Spells tokens json)
    (nonempty : members ≠ []) (fills : Fills true (renderMembers members) readMembers others members)
    : Fills true (renderMembers ((some key, json) :: members)) readMembers
        (.atom (.text key) :: .colon :: tokens ++ .comma :: others) ((some key, json) :: members) where
  starts := ⟨_, _, rfl, by simp⟩
  cuts {rest more} cuts := by
    have written : (renderMembers ((some key, json) :: members)).toList ++ Json.closing true :: rest
        = (quote key).toList ++ ':' :: (json.render.toList
            ++ ',' :: ((renderMembers members).toList ++ Json.closing true :: rest)) := by
      cases members with
      | nil => exact absurd rfl nonempty
      | cons next members => simp [renderMembers]
    rw [written, List.append_assoc]
    refine .quote key (Cuts.sign rfl (spells.cuts ?_ ((fills.cuts cuts).sign rfl)))
    intro c first
    cases first
    decide
  reads {bound} more enough := by
    simp only [List.length_append, List.length_cons] at enough
    obtain ⟨bound, rfl⟩ : ∃ less, bound = less + 1 := ⟨bound - 1, by omega⟩
    have later : readMembers bound (others ++ .close true :: more) = some (members, more) :=
      fills.reads more (by omega)
    simp only [List.append_assoc, List.cons_append]
    rw [text, readMembers, spells.reads _ (by omega)]
    simp only [Option.bind_eq_bind, Option.bind_some, later]
    rfl

/-- Elements of an array are cut out and read.
Witness: induction on the elements.
-/
theorem exists_fills_elements {json : Json}
    (spelled : ∀ element ∈ json :: elements, ∃ tokens, Spells tokens element)
    : ∃ tokens,
        Fills false (renderElements (json :: elements)) readElements tokens (json :: elements) := by
  induction elements generalizing json with
  | nil =>
      obtain ⟨tokens, spells⟩ := spelled json List.mem_cons_self
      exact ⟨tokens, .element spells⟩
  | cons next elements ih =>
      obtain ⟨tokens, spells⟩ := spelled json List.mem_cons_self
      obtain ⟨others, fills⟩ := ih (fun element inside => spelled element (.tail _ inside))
      exact ⟨_, .consElement spells (List.cons_ne_nil _ _) fills⟩

theorem exists_fills_members {key : String} {json : Json}
    (keyed : ∀ member ∈ members, member.1.isSome = true)
    (spelled : ∀ member ∈ (some key, json) :: members, ∃ tokens, Spells tokens member.2)
    : ∃ tokens,
        Fills true (renderMembers ((some key, json) :: members)) readMembers tokens
          ((some key, json) :: members) := by
  induction members generalizing key json with
  | nil =>
      obtain ⟨tokens, spells⟩ := spelled _ List.mem_cons_self
      exact ⟨_, .member spells⟩
  | cons next members ih =>
      obtain ⟨tokens, spells⟩ := spelled _ List.mem_cons_self
      obtain ⟨_ | nextKey, nextJson⟩ := next
      · exact absurd (keyed _ List.mem_cons_self) (by simp)
      · obtain ⟨others, fills⟩ :=
          ih (fun member inside => keyed member (.tail _ inside))
            (fun member inside => spelled member (.tail _ inside))
        exact ⟨_, .consMember spells (List.cons_ne_nil _ _) fills⟩

/-- What stands between an opening and a closing sign is read as the parts. -/
theorem readValue_open {bound : Nat}
    (starts : ∃ token rest, tokens = token :: rest ∧ ∀ object, token ≠ .close object)
    : readValue (bound + 1) (.open false :: tokens)
        = (readElements bound tokens).map (fun (elements, rest) => (.array elements, rest))
      ∧ readValue (bound + 1) (.open true :: tokens)
        = (readMembers bound tokens).map (fun (members, rest) => (.object members, rest)) := by
  obtain ⟨token, rest, rfl, no⟩ := starts
  constructor
  · cases token with
    | close object => exact absurd rfl (no object)
    | _ =>
        unfold readValue
        cases readElements bound _ <;> rfl
  · cases token with
    | close object => exact absurd rfl (no object)
    | _ =>
        unfold readValue
        cases readMembers bound _ <;> rfl

/-- Every document with a text of its own is spelled by tokens.
Witness: induction on the document.
-/
theorem Written.exists_spells {json : Json} (written : Written json) : ∃ tokens, Spells tokens json := by
  induction written with
  | null =>
      refine ⟨_, .atom (fun {rest} more _ cuts => ?_)⟩
      exact .cons (by decide) rfl (by simp; omega) cuts
  | bool value =>
      refine ⟨_, .atom (fun {rest} more _ cuts => ?_)⟩
      cases value <;> exact .cons (by decide) rfl (by simp; omega) cuts
  | number form => exact ⟨_, .atom (fun ends cuts => .number form ends cuts)⟩
  | text content => exact ⟨_, .atom (fun _ cuts => .quote content cuts)⟩
  | @array elements _ ih =>
      cases elements with
      | nil =>
          refine ⟨[.open false, .close false], ⟨_, _, rfl, by simp⟩, fun ends cuts => ?_, ?_⟩
          · exact Cuts.sign rfl (Cuts.sign rfl cuts)
          · intro bound more _
            cases bound <;> rfl
      | cons element elements =>
          obtain ⟨tokens, fills⟩ := exists_fills_elements ih
          refine ⟨.open false :: tokens ++ [.close false], ⟨_, _, rfl, by simp⟩, ?_, ?_⟩
          · intro rest more _ cuts
            have written : (render (.array (element :: elements))).toList ++ rest
                = '[' :: ((renderElements (element :: elements)).toList ++ closing false :: rest) := by
              simp [render, closing]
            rw [written, List.append_assoc]
            exact (fills.cuts cuts).sign rfl
          · intro bound more enough
            rw [List.length_append, List.length_cons] at enough
            obtain ⟨bound, rfl⟩ : ∃ less, bound = less + 1 := ⟨bound - 1, by omega⟩
            rw [List.append_assoc, List.cons_append, (readValue_open (starts_append fills.starts)).1,
              List.singleton_append, fills.reads more (by simp at enough; omega)]
            rfl
  | @object members keys _ ih =>
      cases members with
      | nil =>
          refine ⟨[.open true, .close true], ⟨_, _, rfl, by simp⟩, fun ends cuts => ?_, ?_⟩
          · exact Cuts.sign rfl (Cuts.sign rfl cuts)
          · intro bound more _
            cases bound <;> rfl
      | cons member members =>
          obtain ⟨_ | key, value⟩ := member
          · exact absurd (keys _ List.mem_cons_self) (by simp)
          · obtain ⟨tokens, fills⟩ :=
              exists_fills_members (fun member inside => keys member (.tail _ inside)) ih
            refine ⟨.open true :: tokens ++ [.close true], ⟨_, _, rfl, by simp⟩, ?_, ?_⟩
            · intro rest more _ cuts
              have written : (render (.object ((some key, value) :: members))).toList ++ rest
                  = '\x7b' :: ((renderMembers ((some key, value) :: members)).toList
                      ++ closing true :: rest) := by
                simp [render, closing]
              rw [written, List.append_assoc]
              exact (fills.cuts cuts).sign rfl
            · intro bound more enough
              rw [List.length_append, List.length_cons] at enough
              obtain ⟨bound, rfl⟩ : ∃ less, bound = less + 1 := ⟨bound - 1, by omega⟩
              rw [List.append_assoc, List.cons_append,
                (readValue_open (starts_append fills.starts)).2, List.singleton_append,
                fills.reads more (by simp at enough; omega)]
              rfl

/-- The text of a document is read as the document. -/
theorem read?_render {json : Json} (written : Written json) : read? json.render = some json := by
  obtain ⟨tokens, spells⟩ := written.exists_spells
  have cut : Cuts json.render.toList tokens := by
    simpa using spells.cuts (by simp [Ends]) .nil
  have value : readValue (2 * tokens.length) tokens = some (json, []) := by
    simpa using spells.reads [] (Nat.le_refl _)
  rw [read?, cut.tokens_eq, Option.bind_eq_bind, Option.bind_some, value]
  rfl

end EntityStore.Json
