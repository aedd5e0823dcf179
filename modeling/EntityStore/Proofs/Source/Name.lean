import EntityStore.Proofs.Text.Words
import EntityStore.Source.Module
import EntityStore.Source.Name

/-! Names that are formed from names.
A name in another style, or behind another name, is a name again unless it is raw or has
characters that no identifier has. A raw name may come to be one of the words that are never raw.
-/

namespace EntityStore.Source

open Text

/-- The name is marked as raw. -/
def isRaw (name : String) : Bool :=
  rawMarks.isPrefixOf name.toList

/-- The text is a name, raw or not. -/
def IsName (text : String) : Prop :=
  (nameOf? text).isSome

/-- The type that the item declares, if it declares one, has a name. -/
def Item.Named : Item → Prop
  | .declaration source _ => IsName source.name
  | _ => True

/-- The module and the types in it have names. -/
structure Module.Named (module : Module) : Prop where
  name : IsName module.name
  items : ∀ body, module.body = some body → ∀ item ∈ body.items, item.Named

variable {name text : String}

-----------------------------------------------------------------------------------------
-- Raw names
-----------------------------------------------------------------------------------------

theorem isRaw_iff : isRaw name ↔ ∃ rest, name.toList = 'r' :: '#' :: rest := by
  rw [isRaw, List.isPrefixOf_iff_prefix]
  constructor
  · rintro ⟨rest, same⟩
    exact ⟨rest, same.symm⟩
  · rintro ⟨rest, same⟩
    exact ⟨rest, same.symm⟩

theorem toList_bareName {rest : List Char} (marked : name.toList = 'r' :: '#' :: rest)
    : (bareName name).toList = rest := by
  have raw : rawMarks.isPrefixOf name.toList := isRaw_iff.mpr ⟨rest, marked⟩
  rw [bareName, if_pos raw, String.toList_ofList, marked]
  rfl

/-- What goes on with identifiers is not marked. -/
theorem isRaw_eq_false (continues : name.toList.all continuesIdentifier) : isRaw name = false := by
  rw [Bool.eq_false_iff]
  intro raw
  obtain ⟨rest, marked⟩ := isRaw_iff.mp raw
  have foreign : continuesIdentifier '#' = false := by
    decide
  simp [marked, foreign] at continues

theorem isName_iff_of_plain (plain : isRaw text = false) : IsName text ↔ isIdentifier text := by
  have unmarked : ¬ rawMarks.isPrefixOf text.toList := Bool.eq_false_iff.mp plain
  rw [IsName, nameOf?, if_neg unmarked]
  split_ifs with identifier <;> simp [identifier]

theorem isName_iff_of_raw (raw : isRaw text)
    : IsName text ↔ isIdentifier (bareName text) ∧ bareName text ∉ neverRaw := by
  have marked : rawMarks.isPrefixOf text.toList := raw
  rw [IsName, nameOf?, if_pos marked]
  dsimp only
  split_ifs with identifier <;> simp [identifier]

theorem isName_of_isIdentifier (identifier : isIdentifier text) : IsName text :=
  (isName_iff_of_plain (isRaw_eq_false (all_continue_of_isIdentifier identifier))).mpr identifier

-----------------------------------------------------------------------------------------
-- Formed names
-----------------------------------------------------------------------------------------

/-- A name in small letters is a name, unless it is raw and its small letters never are. -/
theorem isName_snakeCase (named : IsName name)
    : IsName (snakeCase name) ↔ (isRaw name → snakeCase (bareName name) ∉ neverRaw) := by
  cases raw : isRaw name with
  | false =>
      have identifier := (isName_iff_of_plain raw).mp named
      simp [isName_of_isIdentifier (isIdentifier_snakeCase identifier)]
  | true =>
      obtain ⟨rest, marked⟩ := isRaw_iff.mp raw
      have bare := toList_bareName marked
      have spelled : name.toList = 'r' :: '#' :: (bareName name).toList := by
        rw [marked, bare]
      have small := snakeCase_raw spelled
      have smallBare : bareName (snakeCase name) = snakeCase (bareName name) :=
        String.toList_inj.mp (toList_bareName small)
      have identifier := ((isName_iff_of_raw raw).mp named).1
      rw [isName_iff_of_raw (isRaw_iff.mpr ⟨_, small⟩), smallBare]
      simp [isIdentifier_snakeCase identifier]

/-- A name in small letters behind an identifier is a name exactly if it goes on with one. -/
theorem isName_append_snakeCase (verb : String) (identifier : isIdentifier verb)
    (unmarked : verb.toList.head? ≠ some 'r')
    : IsName (verb ++ snakeCase name) ↔ Continues name := by
  have all := all_continue_of_isIdentifier identifier
  have continues : (verb ++ snakeCase name).toList.all continuesIdentifier ↔ Continues name := by
    rw [String.toList_append, List.all_append, all, Bool.true_and, snakeCase_continues]
  obtain ⟨first, more, spelled, starts, -⟩ := isIdentifier_iff.mp identifier
  have joined : (verb ++ snakeCase name).toList = first :: (more ++ (snakeCase name).toList) := by
    rw [String.toList_append, spelled, List.cons_append]
  have plain : isRaw (verb ++ snakeCase name) = false := by
    rw [Bool.eq_false_iff]
    intro raw
    obtain ⟨rest, marked⟩ := isRaw_iff.mp raw
    have same : first = 'r' := (List.cons.inj (joined.symm.trans marked)).1
    exact unmarked (by rw [spelled, same, List.head?_cons])
  rw [isName_iff_of_plain plain, ← continues]
  refine ⟨all_continue_of_isIdentifier, fun all => ?_⟩
  exact (isIdentifier_iff_starts joined all).mpr starts

/-- A name with capitals is a name, unless it is raw or starts with what starts no identifier. -/
theorem isName_pascalCase_append {ending : String} (named : IsName name)
    (last : isIdentifier ending)
    : IsName (pascalCase name ++ ending) ↔ isRaw name = false ∧ Opens name := by
  cases raw : isRaw name with
  | false =>
      have identifier := (isName_iff_of_plain raw).mp named
      rw [isName_iff_of_plain (isRaw_eq_false (all_continue_pascalCase_append identifier last)),
        isIdentifier_pascalCase_append identifier last]
      simp
  | true =>
      obtain ⟨rest, marked⟩ := isRaw_iff.mp raw
      have stops : ¬ Continues name :=
        not_continues_of_mem (c := '#') (by simp [marked]) (by decide) (by decide)
      have capital : upper 'r' = ['R'] := by
        decide
      obtain ⟨others, after⟩ := upper_prefix_pascalCase marked (by decide)
      have plain : isRaw (pascalCase name ++ ending) = false := by
        rw [Bool.eq_false_iff]
        intro raw
        obtain ⟨more, marked⟩ := isRaw_iff.mp raw
        rw [String.toList_append, ← after, capital] at marked
        exact absurd (List.cons.inj marked).1 (by decide)
      rw [isName_iff_of_plain plain]
      simp only [Bool.true_eq_false, false_and, iff_false]
      intro identifier
      have all := all_continue_of_isIdentifier identifier
      rw [String.toList_append, List.all_append, Bool.and_eq_true] at all
      exact stops (pascalCase_continues.mp all.1)

end EntityStore.Source
