import EntityStore.Derive.Field
import Mathlib.Data.List.Nodup

/-! Which lists of options are read.
Options are read one by one and change what has been read so far. A list is read exactly if it
spells options with a comma between each two, each of which may follow those before it. The options
of a relation may follow each other unless one of them is given twice.
-/

namespace EntityStore.Derive

open Source

variable {σ α β : Type} {tokens rest : List Token}

-----------------------------------------------------------------------------------------
-- Parsers
-----------------------------------------------------------------------------------------

/-- Two parsers after each other answer what the second one does where the first one has ended. -/
private theorem run_bind_eq_ok_iff {first : OptionParser α} {second : α → OptionParser β}
    {value : β}
    : (first >>= second).run tokens = .ok (value, rest)
      ↔ ∃ middle between,
          first.run tokens = .ok (middle, between)
          ∧ (second middle).run between = .ok (value, rest) := by
  rw [StateT.run_bind]
  cases read : first.run tokens with
  | error problem =>
      constructor
      · intro done
        cases done
      · rintro ⟨_, _, found, -⟩
        cases found
  | ok found =>
      obtain ⟨middle, between⟩ := found
      constructor
      · exact fun done => ⟨middle, between, rfl, done⟩
      · rintro ⟨_, _, same, done⟩
        cases same
        exact done

private theorem run_pure_eq_ok_iff {value result : α}
    : (pure value : OptionParser α).run tokens = .ok (result, rest)
      ↔ value = result ∧ tokens = rest := by
  rw [StateT.run_pure]
  simp [pure, Except.pure]

private theorem run_get_eq_ok_iff {result : List Token}
    : (get : OptionParser (List Token)).run tokens = .ok (result, rest)
      ↔ result = tokens ∧ rest = tokens := by
  rw [StateT.run_get]
  simp [pure, Except.pure, eq_comm]

private theorem startsSymbol_iff {char : Char}
    : startsSymbol [char] tokens ↔ ∃ joint rest, tokens = .mark char joint :: rest := by
  rcases tokens with _ | ⟨token, rest⟩
  · simp [startsSymbol]
  · cases token <;> simp [startsSymbol, eq_comm]

private theorem mark_eq_ok_iff {char : Char} {result : Unit}
    : (mark char).run tokens = .ok (result, rest) ↔ ∃ joint, tokens = .mark char joint :: rest := by
  rw [mark, run_bind_eq_ok_iff]
  simp only [run_get_eq_ok_iff]
  constructor
  · rintro ⟨_, _, ⟨rfl, rfl⟩, read⟩
    split_ifs at read with starts
    · obtain ⟨joint, others, rfl⟩ := startsSymbol_iff.mp starts
      cases read
      exact ⟨joint, rfl⟩
    · cases read
  · rintro ⟨joint, rfl⟩
    refine ⟨_, _, ⟨rfl, rfl⟩, ?_⟩
    rw [if_pos (startsSymbol_iff.mpr ⟨joint, rest, rfl⟩)]
    rfl

private theorem textValue_eq_ok_iff {text : String}
    : textValue.run tokens = .ok (text, rest)
      ↔ ∃ joint literal,
          tokens = .mark '=' joint :: .literal literal :: rest
          ∧ stringValue? literal = some text := by
  rw [textValue, run_bind_eq_ok_iff]
  simp only [mark_eq_ok_iff, run_bind_eq_ok_iff, run_get_eq_ok_iff]
  constructor
  · rintro ⟨_, _, ⟨joint, rfl⟩, _, _, ⟨rfl, rfl⟩, read⟩
    split at read
    next literal others =>
      split at read
      next found =>
        cases read
        exact ⟨joint, literal, rfl, found⟩
      next =>
        cases read
    next =>
      unfold missing at read
      obtain ⟨_, _, -, read⟩ := run_bind_eq_ok_iff.mp read
      split_ifs at read <;> cases read
  · rintro ⟨joint, literal, rfl, found⟩
    refine ⟨(), _, ⟨joint, rfl⟩, _, _, ⟨rfl, rfl⟩, ?_⟩
    simp only [found]
    rfl

-----------------------------------------------------------------------------------------
-- Names of options
-----------------------------------------------------------------------------------------

private theorem pathWord_eq_ok_iff {word : String}
    : pathWord.run tokens = .ok (word, rest) ↔ tokens = .name word :: rest := by
  rcases tokens with _ | ⟨token, others⟩
  · exact ⟨fun read => (by cases read), fun same => (by cases same)⟩
  · cases token with
    | name found =>
        have read : pathWord.run (.name found :: others) = .ok (found, others) := rfl
        simp [read]
    | mark _ _ | literal _ | lifetime _ | group _ _ =>
        exact ⟨fun read => (by cases read), fun same => (by cases same)⟩

/-- A path ends where no separator follows, if it may go on at all. -/
private theorem pathWords_eq_nil_iff {bound : Nat} (room : tokens.length ≤ bound)
    : (pathWords bound).run tokens = .ok ([], rest)
      ↔ startsPathSeparator tokens = false ∧ rest = tokens := by
  cases bound with
  | zero =>
      obtain rfl := List.eq_nil_of_length_eq_zero (Nat.le_zero.mp room)
      rw [pathWords, run_pure_eq_ok_iff]
      simp [startsPathSeparator, startsSymbol, eq_comm]
  | succ bound =>
      rw [pathWords, run_bind_eq_ok_iff]
      simp only [run_get_eq_ok_iff]
      constructor
      · rintro ⟨_, _, ⟨rfl, rfl⟩, read⟩
        split_ifs at read with separated
        · -- Behind a separator there is another word, or a problem.
          simp only [run_bind_eq_ok_iff, run_pure_eq_ok_iff] at read
          obtain ⟨_, _, -, _, _, -, _, _, -, absent, -⟩ := read
          exact absurd absent (List.cons_ne_nil _ _)
        · obtain ⟨-, rfl⟩ := run_pure_eq_ok_iff.mp read
          exact ⟨by simpa using separated, rfl⟩
      · rintro ⟨ends, rfl⟩
        refine ⟨_, _, ⟨rfl, rfl⟩, ?_⟩
        rw [ends]
        rfl

/-- The name of an option is a single word that no separator follows. -/
private theorem optionName_eq_ok_iff {word : String}
    : optionName.run tokens = .ok (⟨false, [word]⟩, rest)
      ↔ tokens = .name word :: rest ∧ startsPathSeparator rest = false := by
  have path : optionPath.run tokens = .ok (⟨false, [word]⟩, rest)
      ↔ tokens = .name word :: rest ∧ startsPathSeparator rest = false := by
    rw [optionPath]
    simp only [run_bind_eq_ok_iff, run_get_eq_ok_iff]
    constructor
    · rintro ⟨_, _, ⟨rfl, rfl⟩, read⟩
      split_ifs at read with rooted
      · simp only [run_bind_eq_ok_iff, run_pure_eq_ok_iff, rooted] at read
        obtain ⟨_, _, -, _, _, -, _, _, -, _, _, -, same, -⟩ := read
        cases same
      · simp only [run_bind_eq_ok_iff, pathWord_eq_ok_iff, run_get_eq_ok_iff, run_pure_eq_ok_iff,
          AttributePath.mk.injEq, List.cons.injEq] at read
        obtain ⟨_, _, rfl, _, _, ⟨rfl, rfl⟩, _, _, read, ⟨-, rfl, rfl⟩, rfl⟩ := read
        obtain ⟨ends, rfl⟩ := (pathWords_eq_nil_iff (Nat.le_refl _)).mp read
        exact ⟨rfl, ends⟩
    · rintro ⟨rfl, ends⟩
      have plain : startsPathSeparator (.name word :: rest) = false := rfl
      refine ⟨_, _, ⟨rfl, rfl⟩, ?_⟩
      simp only [plain, Bool.false_eq_true, if_false, run_bind_eq_ok_iff, pathWord_eq_ok_iff,
        run_get_eq_ok_iff, run_pure_eq_ok_iff]
      have last := (pathWords_eq_nil_iff (Nat.le_refl _)).mpr ⟨ends, Eq.refl rest⟩
      exact ⟨_, _, rfl, _, _, ⟨rfl, rfl⟩, _, _, last, rfl, rfl⟩
  rw [optionName]
  simp only [run_bind_eq_ok_iff, run_get_eq_ok_iff]
  constructor
  · rintro ⟨_, _, ⟨rfl, rfl⟩, read⟩
    generalize (if startsPathSeparator _ then _ else _) = rest at read
    split_ifs at read
    · exact path.mp read
    all_goals cases read
  · rintro ⟨rfl, ends⟩
    exact ⟨_, _, ⟨rfl, rfl⟩, path.mpr ⟨rfl, ends⟩⟩

-----------------------------------------------------------------------------------------
-- Lists of options
-----------------------------------------------------------------------------------------

/-- A list of items with a comma between each two. A comma may follow the last item. -/
inductive Listed (Spells : List Token → α → Prop) : List Token → List α → Prop
  | nil : Listed Spells [] []
  | last {item : List Token} {value : α} (spelled : Spells item value) : Listed Spells item [value]
  | cons {item rest : List Token} {value : α} {values : List α} {joint : Bool}
      (spelled : Spells item value) (others : Listed Spells rest values)
      : Listed Spells (item ++ .mark ',' joint :: rest) (value :: values)

/-- Up to the first commas, lists are the same if they are the same as a whole. -/
private theorem eq_of_append_comma {first second behind other : List Token} {joint joint' : Bool}
    (same : first ++ .mark ',' joint :: behind = second ++ .mark ',' joint' :: other)
    (plain : ∀ joint, .mark ',' joint ∉ first) (plain' : ∀ joint, .mark ',' joint ∉ second)
    : first = second ∧ behind = other := by
  have shorter {ending behind other : List Token} {joint joint' : Bool}
      (between : .mark ',' joint :: behind = ending ++ .mark ',' joint' :: other)
      (plain : .mark ',' joint ∉ ending)
      : ending = [] ∧ behind = other := by
    rcases ending with _ | ⟨token, ending⟩
    · exact ⟨rfl, (List.cons.inj between).2⟩
    · rw [List.cons_append] at between
      exact absurd ((List.cons.inj between).1 ▸ List.mem_cons_self) plain
  obtain ⟨ending, rfl, between⟩ | ⟨ending, rfl, between⟩ := List.append_eq_append_iff.mp same
  · obtain ⟨rfl, rest⟩ := shorter between fun here => plain' joint (List.mem_append_right _ here)
    exact ⟨by simp, rest⟩
  · obtain ⟨rfl, rest⟩ := shorter between fun here => plain joint' (List.mem_append_right _ here)
    exact ⟨by simp, rest.symm⟩

/-- A list is a list of the same values only, if the spellings of the items say what they are and
have no comma in them.
Witness: induction on the list. -/
theorem Listed.unique {Spells : List Token → α → Prop} {values others : List α}
    (nonempty : ∀ {item value}, Spells item value → item ≠ [])
    (single : ∀ {item value other}, Spells item value → Spells item other → value = other)
    (plain : ∀ {item value}, Spells item value → ∀ joint, .mark ',' joint ∉ item)
    (listed : Listed Spells tokens values) (listed' : Listed Spells tokens others)
    : values = others := by
  induction listed generalizing others with
  | nil =>
      generalize empty : ([] : List Token) = tokens at listed'
      cases listed' with
      | nil => rfl
      | last spelled => exact absurd empty.symm (nonempty spelled)
      | cons => simp at empty
  | last spelled =>
      cases listed' with
      | nil => exact absurd rfl (nonempty spelled)
      | last spelled' => rw [single spelled spelled']
      | @cons _ _ _ _ joint => exact absurd (by simp) (plain spelled joint)
  | @cons item rest value values joint spelled listed ih =>
      generalize same : item ++ .mark ',' joint :: rest = tokens at listed'
      cases listed' with
      | nil => simp at same
      | last spelled' => exact absurd (by simp [← same]) (plain spelled' joint)
      | cons spelled' listed' =>
          obtain ⟨rfl, rfl⟩ := eq_of_append_comma same (plain spelled) (plain spelled')
          rw [single spelled spelled', ih listed']

/-- An item of a list may end before the tokens. -/
def EndsItem (tokens : List Token) : Prop :=
  tokens = [] ∨ ∃ joint rest, tokens = .mark ',' joint :: rest

/-- A step that takes in options reads those that are spelled in a way, where they may follow what
has been read so far. -/
structure Reads (step : σ → AttributePath → OptionParser σ) (Spells : List Token → α → Prop)
    (follow? : σ → α → Option σ) : Prop where
  nonempty : ∀ {item value}, Spells item value → item ≠ []
  /-- The tokens that an option is read from are its spelling. -/
  step_iff
    : ∀ {state next tokens rest}, EndsItem rest
      → ((optionName >>= step state).run tokens = .ok (next, rest)
        ↔ ∃ item value,
            tokens = item ++ rest ∧ Spells item value ∧ follow? state value = some next)

section Reading

variable {step : σ → AttributePath → OptionParser σ} {Spells : List Token → α → Prop}
  {follow? : σ → α → Option σ} {state final : σ}

private theorem optionsWithin_nil (bound : Nat)
    : (optionsWithin step bound state).run [] = .ok (state, []) := by
  cases bound <;> rfl

/-- Where there are tokens, an option is read, and then the tokens end, or other options follow a
comma. -/
private theorem optionsWithin_succ_eq_ok_iff {bound : Nat} (present : tokens ≠ [])
    : (optionsWithin step (bound + 1) state).run tokens = .ok (final, rest)
      ↔ ∃ next between,
          (optionName >>= step state).run tokens = .ok (next, between)
          ∧ (between = [] ∧ next = final ∧ rest = []
            ∨ ∃ joint behind,
                between = .mark ',' joint :: behind
                ∧ (optionsWithin step bound next).run behind = .ok (final, rest)) := by
  have some : ¬ tokens.isEmpty := by
    simpa using present
  rw [optionsWithin]
  simp only [run_bind_eq_ok_iff, run_get_eq_ok_iff]
  constructor
  · rintro ⟨_, _, ⟨rfl, rfl⟩, read⟩
    rw [if_neg some] at read
    simp only [run_bind_eq_ok_iff, run_get_eq_ok_iff] at read
    obtain ⟨name, behind, named, next, between, stepped, _, _, ⟨rfl, rfl⟩, read⟩ := read
    refine ⟨next, _, ⟨name, behind, named, stepped⟩, ?_⟩
    split_ifs at read with ends
    · obtain ⟨rfl, rfl⟩ := run_pure_eq_ok_iff.mp read
      exact .inl ⟨List.isEmpty_iff.mp ends, rfl, List.isEmpty_iff.mp ends⟩
    · obtain ⟨_, _, marked, read⟩ := run_bind_eq_ok_iff.mp read
      obtain ⟨joint, rfl⟩ := mark_eq_ok_iff.mp marked
      exact .inr ⟨joint, _, rfl, read⟩
  · rintro ⟨next, between, ⟨name, behind, named, stepped⟩, further⟩
    refine ⟨_, _, ⟨rfl, rfl⟩, ?_⟩
    rw [if_neg some]
    simp only [run_bind_eq_ok_iff, run_get_eq_ok_iff]
    refine ⟨name, behind, named, next, between, stepped, _, _, ⟨rfl, rfl⟩, ?_⟩
    obtain ⟨rfl, rfl, rfl⟩ | ⟨joint, others, rfl, read⟩ := further
    · rfl
    · exact run_bind_eq_ok_iff.mpr ⟨(), others, mark_eq_ok_iff.mpr ⟨joint, rfl⟩, read⟩

/-- Options are read exactly from a list that spells options which may follow each other.
Witness: induction on the room that is left, which an option and its comma use up. -/
private theorem Reads.optionsWithin_iff (reads : Reads step Spells follow?) {bound : Nat}
    (room : tokens.length < bound)
    : (optionsWithin step bound state).run tokens = .ok (final, rest)
      ↔ rest = []
        ∧ ∃ values, Listed Spells tokens values ∧ values.foldlM follow? state = some final := by
  induction bound generalizing state tokens with
  | zero => contradiction
  | succ bound ih =>
      by_cases present : tokens = []
      · subst present
        have read : (optionsWithin step (bound + 1) state).run [] = .ok (final, rest)
            ↔ rest = [] ∧ state = final := by
          rw [optionsWithin_nil]
          simp [eq_comm, and_comm]
        rw [read, and_congr_right_iff]
        rintro -
        constructor
        · rintro rfl
          exact ⟨[], .nil, rfl⟩
        · rintro ⟨values, listed, folded⟩
          generalize empty : ([] : List Token) = tokens at listed
          cases listed with
          | nil => simpa using folded
          | last spelled => exact absurd empty.symm (reads.nonempty spelled)
          | cons => simp at empty
      rw [optionsWithin_succ_eq_ok_iff present]
      have shorter {item behind : List Token} {joint : Bool}
          (same : tokens = item ++ .mark ',' joint :: behind) : behind.length < bound := by
        simp only [same, List.length_append, List.length_cons] at room
        omega
      constructor
      · rintro ⟨next, between, read, ⟨rfl, rfl, rfl⟩ | ⟨joint, behind, rfl, further⟩⟩
        · obtain ⟨item, value, rfl, spelled, followed⟩ := (reads.step_iff (.inl rfl)).mp read
          exact ⟨rfl, [value], by simpa using Listed.last spelled, by simp [followed]⟩
        · obtain ⟨item, value, same, spelled, followed⟩ :=
            (reads.step_iff (.inr ⟨joint, behind, rfl⟩)).mp read
          obtain ⟨rfl, values, listed, folded⟩ := (ih (shorter same)).mp further
          exact ⟨rfl, value :: values, same ▸ .cons spelled listed, by simp [followed, folded]⟩
      · rintro ⟨rfl, values, listed, folded⟩
        cases listed with
        | nil => exact absurd rfl present
        | last spelled =>
            rw [List.foldlM_cons] at folded
            obtain ⟨next, followed, ended⟩ := Option.bind_eq_some_iff.mp folded
            obtain rfl : next = final := Option.some.inj ended
            have read := (reads.step_iff (.inl rfl)).mpr
              ⟨tokens, _, (List.append_nil tokens).symm, spelled, followed⟩
            exact ⟨next, [], read, .inl ⟨rfl, rfl, rfl⟩⟩
        | @cons item behind value values joint spelled listed =>
            rw [List.foldlM_cons] at folded
            obtain ⟨next, followed, folded⟩ := Option.bind_eq_some_iff.mp folded
            have read := (reads.step_iff (.inr ⟨joint, behind, rfl⟩)).mpr
              ⟨item, value, rfl, spelled, followed⟩
            exact ⟨next, _, read,
              .inr ⟨joint, behind, rfl, (ih (shorter rfl)).mpr ⟨rfl, values, listed, folded⟩⟩⟩

/-- The options of an attribute are read exactly if it has a list that spells options which may
follow each other. -/
theorem Reads.readOptions_iff (reads : Reads step Spells follow?) {self : Attribute} {initial : σ}
    : readOptions step initial self = .ok final
      ↔ ∃ contents values,
          self.arguments = .list contents
          ∧ Listed Spells contents values
          ∧ values.foldlM follow? initial = some final := by
  unfold readOptions
  cases found : self.arguments with
  | none => exact ⟨fun read => (by cases read), fun ⟨_, _, same, _⟩ => (by cases same)⟩
  | value tokens => exact ⟨fun read => (by cases read), fun ⟨_, _, same, _⟩ => (by cases same)⟩
  | list contents =>
      have ended (result : Except Problem (σ × List Token))
          : Prod.fst <$> result = .ok final ↔ ∃ rest, result = .ok (final, rest) := by
        cases result <;> simp [Functor.map, Except.map, Prod.ext_iff]
      simp only [ended, reads.optionsWithin_iff (Nat.lt_succ_self _), exists_eq_left,
        AttributeArguments.list.injEq]
      constructor
      · rintro ⟨values, listed, folded⟩
        exact ⟨contents, values, rfl, listed, folded⟩
      · rintro ⟨_, values, rfl, listed, folded⟩
        exact ⟨values, listed, folded⟩

end Reading

-----------------------------------------------------------------------------------------
-- Options of fields
-----------------------------------------------------------------------------------------

theorem AttributePath.isName_iff {path : AttributePath} {name : String}
    : path.isName name ↔ path = ⟨false, [name]⟩ := by
  obtain ⟨rooted, names⟩ := path
  simp [AttributePath.isName]

/-- The spelling of the option that leaves a field out of the store. -/
def SpellsSkip (item : List Token) (_ : Unit) : Prop :=
  item = [.name "skip"]

private theorem EndsItem.noSeparator (ends : EndsItem rest) : startsPathSeparator rest = false := by
  obtain rfl | ⟨joint, others, rfl⟩ := ends
  · rfl
  · cases joint <;> rfl

private theorem reads_skip : Reads takeFieldOption SpellsSkip fun _ _ => some true where
  nonempty := by
    rintro item value rfl
    simp
  step_iff := by
    intro state next tokens rest ends
    rw [run_bind_eq_ok_iff]
    constructor
    · rintro ⟨path, between, named, taken⟩
      unfold takeFieldOption at taken
      split_ifs at taken with skip
      · cases AttributePath.isName_iff.mp skip
        obtain ⟨rfl, -⟩ := optionName_eq_ok_iff.mp named
        obtain ⟨rfl, rfl⟩ := run_pure_eq_ok_iff.mp taken
        exact ⟨[.name "skip"], (), rfl, rfl, rfl⟩
      · cases taken
    · rintro ⟨item, -, rfl, rfl, followed⟩
      cases followed
      exact ⟨_, _, optionName_eq_ok_iff.mpr ⟨rfl, ends.noSeparator⟩, rfl⟩

/-- The attribute has a list of `skip` and nothing else, and leaves the field out if it is there at
all. -/
theorem readSkip_iff {self : Attribute} {skipped : Bool}
    : readSkip self = .ok skipped
      ↔ ∃ contents items,
          self.arguments = .list contents
          ∧ Listed SpellsSkip contents items
          ∧ (skipped = true ↔ contents ≠ []) := by
  rw [readSkip, reads_skip.readOptions_iff]
  refine exists_congr fun contents => exists_congr fun items => and_congr_right fun _ =>
    and_congr_right fun listed => ?_
  have last (items : List Unit) (state : Bool)
      : items.foldlM (fun _ _ => some true) state = some (state || !items.isEmpty) := by
    induction items generalizing state with
    | nil => simp
    | cons _ items ih => simp [ih]
  have some : contents ≠ [] ↔ items ≠ [] := by
    cases listed with
    | nil => simp
    | last spelled => simp [reads_skip.nonempty spelled]
    | cons => simp
  rw [last, some]
  cases skipped <;> cases items <;> simp

-----------------------------------------------------------------------------------------
-- Options of relations
-----------------------------------------------------------------------------------------

/-- An option of a relation. -/
inductive RelationOption where
  | deleteRule (rule : DeleteRule)
  | keepOrphans
  deriving DecidableEq, Repr

namespace RelationOption

/-- The word that starts the option. -/
def word : RelationOption → String
  | deleteRule _ => "delete_rule"
  | keepOrphans => "keep_orphans"

/-- The text that names a rule. -/
def ruleText : DeleteRule → String
  | .cascade => "cascade"
  | .nullify => "nullify"

/-- The rule that the option gives. -/
def rule? : RelationOption → Option DeleteRule
  | deleteRule rule => some rule
  | keepOrphans => none

/-- The spelling of an option of a relation. -/
inductive Spells : List Token → RelationOption → Prop
  | deleteRule {joint : Bool} {literal : String} {rule : DeleteRule}
      (named : stringValue? literal = some (ruleText rule))
      : Spells [.name "delete_rule", .mark '=' joint, .literal literal] (.deleteRule rule)
  | keepOrphans : Spells [.name "keep_orphans"] .keepOrphans

/-- What has been read when some options have been given. -/
def given (options : List RelationOption) : RelationReading :=
  { deleteRule := options.findSome? rule?
    keepOrphans := options.contains .keepOrphans }

/-- What has been read after another option, unless it has been given before. -/
def follow? (reading : RelationReading) : RelationOption → Option RelationReading
  | deleteRule rule =>
      if reading.deleteRule.isSome then none else some { reading with deleteRule := some rule }
  | keepOrphans =>
      if reading.keepOrphans then none else some { reading with keepOrphans := true }

theorem deleteRule?_eq_some_iff {text : String} {rule : DeleteRule}
    : deleteRule? text = some rule ↔ text = ruleText rule := by
  unfold deleteRule?
  split <;> cases rule <;> simp_all [ruleText]

/-- A list of options of a relation says what they are. -/
theorem listed_unique {options others : List RelationOption} (listed : Listed Spells tokens options)
    (listed' : Listed Spells tokens others)
    : options = others := by
  refine Listed.unique ?_ ?_ ?_ listed listed'
  · rintro _ _ (_ | _) <;> simp
  · intro item value other spelled spelled'
    generalize same : item = again at spelled'
    cases spelled with
    | @deleteRule _ _ rule named =>
        cases spelled' with
        | deleteRule named' =>
            simp only [List.cons.injEq, Token.literal.injEq, and_true, true_and] at same
            obtain ⟨-, rfl⟩ := same
            have texts := Option.some.inj (named.symm.trans named')
            have known := deleteRule?_eq_some_iff.mpr (Eq.refl (ruleText rule))
            rw [Option.some.inj (known.symm.trans (deleteRule?_eq_some_iff.mpr texts))]
        | keepOrphans => simp at same
    | keepOrphans =>
        cases spelled' with
        | deleteRule => simp at same
        | keepOrphans => rfl
  · rintro _ _ (_ | _) joint <;> simp

end RelationOption

open RelationOption

/-- Witness: what is read behind the name of an option is what its spelling goes on with. -/
private theorem reads_relation
    : Reads takeRelationOption RelationOption.Spells RelationOption.follow? where
  nonempty := by
    rintro item value (_ | _) <;> simp
  step_iff := by
    intro state next tokens rest ends
    rw [run_bind_eq_ok_iff]
    constructor
    · rintro ⟨path, between, named, taken⟩
      unfold takeRelationOption at taken
      split_ifs at taken with isRule given isKeep given
      · cases taken
      · cases AttributePath.isName_iff.mp isRule
        obtain ⟨rfl, -⟩ := optionName_eq_ok_iff.mp named
        obtain ⟨text, behind, read, matched⟩ := run_bind_eq_ok_iff.mp taken
        obtain ⟨joint, literal, rfl, value⟩ := textValue_eq_ok_iff.mp read
        split at matched
        next rule known =>
          obtain ⟨rfl, rfl⟩ := run_pure_eq_ok_iff.mp matched
          obtain rfl := deleteRule?_eq_some_iff.mp known
          exact ⟨_, .deleteRule rule, rfl, .deleteRule value, if_neg given⟩
        next => cases matched
      · cases taken
      · cases AttributePath.isName_iff.mp isKeep
        obtain ⟨rfl, -⟩ := optionName_eq_ok_iff.mp named
        obtain ⟨rfl, rfl⟩ := run_pure_eq_ok_iff.mp taken
        exact ⟨_, .keepOrphans, rfl, .keepOrphans, if_neg given⟩
      · cases taken
    · rintro ⟨item, value, rfl, spelled, followed⟩
      cases spelled with
      | @deleteRule joint literal rule named =>
          simp only [follow?] at followed
          split_ifs at followed with given
          cases followed
          refine ⟨⟨false, ["delete_rule"]⟩, _, optionName_eq_ok_iff.mpr ⟨rfl, ?_⟩, ?_⟩
          · cases joint <;> rfl
          have known := deleteRule?_eq_some_iff.mpr (Eq.refl (ruleText rule))
          have read := textValue_eq_ok_iff.mpr ⟨joint, literal, Eq.refl (_ :: _ :: rest), named⟩
          rw [takeRelationOption, if_pos (AttributePath.isName_iff.mpr rfl), if_neg given]
          exact run_bind_eq_ok_iff.mpr ⟨_, _, read, by rw [known]; rfl⟩
      | keepOrphans =>
          simp only [follow?] at followed
          split_ifs at followed with given
          cases followed
          have named :=
            optionName_eq_ok_iff.mpr ⟨Eq.refl (.name "keep_orphans" :: rest), ends.noSeparator⟩
          refine ⟨_, _, named, ?_⟩
          rw [takeRelationOption, if_neg (by decide), if_pos (AttributePath.isName_iff.mpr rfl),
            if_neg given]
          rfl

/-- Another option may follow unless it has been given before. -/
private theorem follow?_given {earlier : List RelationOption} {option : RelationOption}
    : follow? (given earlier) option
      = if option.word ∈ earlier.map word then none else some (given (earlier ++ [option])) := by
  have rules : (given earlier).deleteRule.isSome ↔ "delete_rule" ∈ earlier.map word := by
    simp only [given, List.isSome_findSome?, List.any_eq_true, List.mem_map]
    refine exists_congr fun option => and_congr_right fun _ => ?_
    cases option <;> simp [rule?, word]
  have keeps : (given earlier).keepOrphans ↔ "keep_orphans" ∈ earlier.map word := by
    simp only [given, List.contains_iff_mem, List.mem_map]
    constructor
    · exact fun member => ⟨.keepOrphans, member, rfl⟩
    · rintro ⟨_ | _, member, same⟩
      · simp [word] at same
      · exact member
  cases option with
  | deleteRule rule =>
      rw [follow?, word]
      simp only [rules]
      split_ifs with repeated
      · rfl
      · have absent : earlier.findSome? rule? = none := by
          rw [← Option.not_isSome_iff_eq_none]
          exact fun some => repeated (rules.mp some)
        simp [given, List.findSome?_append, absent, rule?]
  | keepOrphans =>
      rw [follow?, word]
      simp only [keeps]
      split_ifs with repeated
      · rfl
      · simp [given, List.findSome?_append, rule?]

/-- Options may follow each other exactly if none is given twice. -/
private theorem foldlM_follow?_iff (earlier : List RelationOption) {options : List RelationOption}
    {reading : RelationReading} (distinct : (earlier.map word).Nodup)
    : options.foldlM follow? (given earlier) = some reading
      ↔ ((earlier ++ options).map word).Nodup ∧ reading = given (earlier ++ options) := by
  induction options generalizing earlier with
  | nil => simp [distinct, eq_comm]
  | cons option options ih =>
      rw [List.foldlM_cons, follow?_given]
      have split : earlier ++ option :: options = (earlier ++ [option]) ++ options := by
        simp
      split_ifs with repeated
      · have twice : ¬ ((earlier ++ option :: options).map word).Nodup := by
          intro nodup
          rw [List.map_append, List.nodup_append] at nodup
          exact nodup.2.2 _ repeated _ (by simp) rfl
        exact ⟨fun found => (by cases found), fun same => absurd same.1 twice⟩
      · have next : ((earlier ++ [option]).map word).Nodup := by
          rw [List.map_append, List.nodup_append]
          refine ⟨distinct, by simp, ?_⟩
          rintro first member second here rfl
          simp only [List.map_cons, List.map_nil, List.mem_singleton] at here
          exact repeated (here ▸ member)
        rw [split]
        exact ih _ next

/-- The options of a relation are read exactly from a list that gives none of them twice. -/
theorem readRelation_iff {self : Attribute} {relation : RelationOptions}
    : readRelation self = .ok relation
      ↔ ∃ contents options,
          self.arguments = .list contents
          ∧ Listed RelationOption.Spells contents options
          ∧ (options.map word).Nodup
          ∧ relation = (given options).options := by
  have read : readRelation self = .ok relation
      ↔ ∃ reading, readOptions takeRelationOption ⟨none, false⟩ self = .ok reading
        ∧ relation = reading.options := by
    unfold readRelation
    cases readOptions takeRelationOption ⟨none, false⟩ self <;>
      simp [Functor.map, Except.map, eq_comm]
  have start : (⟨none, false⟩ : RelationReading) = given [] := rfl
  simp only [read, reads_relation.readOptions_iff, start, foldlM_follow?_iff [] List.nodup_nil]
  constructor
  · rintro ⟨reading, ⟨contents, options, list, listed, distinct, rfl⟩, rfl⟩
    exact ⟨contents, options, list, listed, distinct, rfl⟩
  · rintro ⟨contents, options, list, listed, distinct, rfl⟩
    exact ⟨_, ⟨contents, options, list, listed, distinct, rfl⟩, rfl⟩

end EntityStore.Derive
