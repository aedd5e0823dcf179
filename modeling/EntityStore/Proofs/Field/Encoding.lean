import EntityStore.Field.Scalar
import EntityStore.Field.Textual

/-! What a field writes it reads back.
Every content that a field admits is stored in a form from which the field reads the same content,
down to the bits of floating point numbers.
-/

namespace EntityStore

-----------------------------------------------------------------------------------------
-- Scalars
-----------------------------------------------------------------------------------------

/-- A scalar of a type is read back from its stored value. -/
theorem ScalarType.decode?_toValue {type : ScalarType} {scalar : Scalar}
    (admits : type.admits scalar = true)
    : type.decode? scalar.toValue = some scalar := by
  cases scalar with
  | integer i =>
      have fits : type.fits i.toInt = true := admits
      cases type with
      | float32 => cases fits
      | float64 => cases fits
      | bool => cases fits
      | string => cases fits
      | timestamp => cases fits
      | _ => simp only [Scalar.toValue, decode?, fits, if_true]
  | _ => cases type <;> simp_all [ScalarType.admits, decode?, Scalar.toValue]

/-- The items of a list are read back one by one. -/
private theorem mapM_decode {type : ScalarType} (items : List Scalar)
    (admits : items.all type.admits = true)
    : (items.map Scalar.toValue).mapM
        (fun value => (OptionT.mk (pure (type.decode? value)) : OptionT Id Scalar))
      = pure items := by
  induction items with
  | nil => rfl
  | cons item rest ih =>
      rw [List.all_cons, Bool.and_eq_true] at admits
      rw [List.map_cons, List.mapM_cons, ih admits.2,
        ScalarType.decode?_toValue admits.1]
      rfl

private theorem mapM_toValue (items : List Scalar)
    : (items.mapM (fun scalar => (pure scalar.toValue : Id Value))) = items.map Scalar.toValue := by
  induction items with
  | nil => rfl
  | cons item rest ih =>
      rw [List.mapM_cons, ih]
      rfl

/-- A scalar field reads back what it has written. -/
theorem ScalarType.ofAttribute?_toAttribute {type : ScalarType} {content : Shaped Scalar}
    (admits : content.items.all type.admits = true)
    : type.ofAttribute? content.shape content.toAttribute = some content := by
  cases content with
  | one item =>
      have read := ScalarType.decode?_toValue (by simpa [Shaped.items] using admits)
      simp only [ofAttribute?, Shape.decode, Shaped.toAttribute, Shaped.encode, Shaped.shape,
        Shape.one, Functor.map, Id.run, pure, read]
      rfl
  | option item =>
      cases item with
      | none => rfl
      | some item =>
          have read := ScalarType.decode?_toValue (by simpa [Shaped.items] using admits)
          simp only [ofAttribute?, Shape.decode, Shaped.toAttribute, Shaped.encode, Shaped.shape,
            Shape.option, Functor.map, Id.run, pure, read]
          rfl
  | many items =>
      have read := mapM_decode items admits
      have written : Shaped.toAttribute (.many items) = some (.list (items.map Scalar.toValue)) := by
        rw [← mapM_toValue]
        rfl
      rw [written]
      simp only [ofAttribute?, Shape.decode, Shape.decodeList, Shaped.shape, Shape.many, read]
      rfl
  | optionMany items =>
      cases items with
      | none => rfl
      | some items =>
          have read := mapM_decode items admits
          have written : Shaped.toAttribute (.optionMany (some items))
              = some (.list (items.map Scalar.toValue)) := by
            rw [← mapM_toValue]
            rfl
          rw [written]
          simp only [ofAttribute?, Shape.decode, Shape.decodeList, Shaped.shape, Shape.optionMany,
            read]
          rfl

-----------------------------------------------------------------------------------------
-- Texts
-----------------------------------------------------------------------------------------

namespace TextualType

/-- The digits of a number stand for it. -/
theorem magnitude?_toDigits (n : Nat) : magnitude? (Nat.toDigits 10 n) = some n := by
  have digits : ∀ c ∈ Nat.toDigits 10 n, ¬ (c < '0' ∨ '9' < c) := by
    intro c inside
    have digit := Nat.isDigit_of_mem_toDigits (by decide) (by decide) inside
    simp only [Char.isDigit, Bool.and_eq_true, decide_eq_true_eq] at digit
    simp only [Char.lt_def, not_or]
    exact ⟨UInt32.not_lt.mpr digit.1, UInt32.not_lt.mpr digit.2⟩
  unfold magnitude?
  rw [if_neg]
  · exact congrArg some Nat.ofDigitChars_ten_toDigits
  · simp only [Bool.or_eq_true, List.isEmpty_iff, List.any_eq_true, decide_eq_true_eq, not_or]
    exact ⟨Nat.toDigits_ne_nil, fun ⟨c, inside, bad⟩ => digits c inside bad⟩

/-- The digits of a number start with a digit, which is no sign. -/
theorem toDigits_head (n : Nat)
    : ∃ c rest, Nat.toDigits 10 n = c :: rest ∧ c ≠ '+' ∧ c ≠ '-' := by
  cases same : Nat.toDigits 10 n with
  | nil => exact absurd same Nat.toDigits_ne_nil
  | cons c rest =>
      have digit : c.isDigit := by
        refine Nat.isDigit_of_mem_toDigits (b := 10) (n := n) (by decide) (by decide) ?_
        rw [same]
        exact List.mem_cons_self
      refine ⟨c, rest, rfl, ?_, ?_⟩
      · intro same
        obtain rfl := same
        exact absurd digit (by decide)
      · intro same
        obtain rfl := same
        exact absurd digit (by decide)

/-- The text of a whole number that fits is read back. -/
theorem parseInteger?_integerText {type : TextualType} {i : Int} (fits : type.fits i = true)
    : type.parseInteger? (Number.integerText i) = some i := by
  by_cases negative : i < 0
  · have signed : (Number.integerText i).toList = '-' :: Nat.toDigits 10 i.natAbs := by
      simp [Number.integerText, Number.digitText, negative]
    have same : -(i.natAbs : Int) = i := by omega
    cases type with
    | int128 =>
        simp only [parseInteger?, signed, if_true, magnitude?_toDigits]
        show (if TextualType.int128.fits (-(i.natAbs : Int)) then some (-(i.natAbs : Int)) else none)
          = some i
        rw [same, if_pos fits]
    | uint64 =>
        simp only [TextualType.fits, range?, Bool.and_eq_true, decide_eq_true_eq] at fits
        omega
    | _ => simp [TextualType.fits, range?] at fits
  · have plain : (Number.integerText i).toList = Nat.toDigits 10 i.natAbs := by
      simp [Number.integerText, Number.digitText, negative]
    have same : Int.ofNat i.natAbs = i := by
      rw [Int.ofNat_eq_natCast]
      omega
    obtain ⟨c, rest, digits, plus, minus⟩ := toDigits_head i.natAbs
    have whole := magnitude?_toDigits i.natAbs
    rw [digits] at plain whole
    simp only [parseInteger?, plain]
    split
    · next rest' same => exact absurd (List.cons.inj same).1 plus
    · next rest' same => exact absurd (List.cons.inj same).1 minus
    · simp only [whole, Option.map_some, Option.bind_eq_bind, Option.bind_some, same, fits, if_true]

/-- A value of a type is read back from its text, if it has one. -/
theorem parse_print {type : TextualType} {textual : Textual} {text : String}
    (admits : type.admits textual = true) (printed : textual.print = .ok text)
    : type.parse text = pure textual := by
  cases textual with
  | bool b =>
      have same : type = .bool := by simpa [TextualType.admits] using admits
      subst same
      cases b <;> cases printed <;> rfl
  | integer i =>
      have fits : type.fits i = true := admits
      cases printed
      have read := parseInteger?_integerText fits
      cases type with
      | uint64 => simp [parse, read]
      | int128 => simp [parse, read]
      | _ => simp [TextualType.fits, range?] at fits
  | format f =>
      have same : type = .format := by simpa [TextualType.admits] using admits
      subst same
      cases f <;> cases printed <;> rfl

end TextualType

/-- The items of a list are read back one by one. -/
private theorem mapM_parse {type : TextualType} {items : List Textual} {values : List Value}
    (admits : items.all type.admits = true)
    (printed : items.mapM (fun textual => Value.string <$> textual.print) = .ok values)
    : values.mapM type.decode = (pure items : OptionT Attempt _) := by
  induction items generalizing values with
  | nil =>
      cases printed
      rfl
  | cons item rest ih =>
      rw [List.all_cons, Bool.and_eq_true] at admits
      rw [List.mapM_cons] at printed
      cases first : item.print with
      | error abort =>
          rw [first] at printed
          contradiction
      | ok text =>
          cases later : rest.mapM (fun textual => Value.string <$> textual.print) with
          | error abort =>
              rw [first, later] at printed
              contradiction
          | ok others =>
              rw [first, later] at printed
              cases printed
              rw [List.mapM_cons, ih admits.2 later]
              simp only [TextualType.decode, TextualType.parse_print admits.1 first, pure_bind]

/-- A textual field reads back what it has written. -/
theorem TextualType.ofAttribute?_toTextAttribute {type : TextualType} {content : Shaped Textual}
    {stored : Option Value} (admits : content.items.all type.admits = true)
    (written : content.toTextAttribute = .ok stored)
    : type.ofAttribute? content.shape stored = .ok (some content) := by
  cases content with
  | one item =>
      cases first : item.print with
      | error abort =>
          simp only [Shaped.toTextAttribute, Shaped.encode, first] at written
          cases written
      | ok text =>
          simp only [Shaped.toTextAttribute, Shaped.encode, first] at written
          cases written
          have read := parse_print (by simpa [Shaped.items] using admits) first
          simp only [ofAttribute?, Shape.decode, Shaped.shape, Shape.one, TextualType.decode, read]
          rfl
  | option item =>
      cases item with
      | none =>
          cases written
          rfl
      | some item =>
          cases first : item.print with
          | error abort =>
              simp only [Shaped.toTextAttribute, Shaped.encode, first] at written
              cases written
          | ok text =>
              simp only [Shaped.toTextAttribute, Shaped.encode, first] at written
              cases written
              have read := parse_print (by simpa [Shaped.items] using admits) first
              simp only [ofAttribute?, Shape.decode, Shaped.shape, Shape.option,
                TextualType.decode, read]
              rfl
  | many items =>
      cases all : items.mapM (fun textual => Value.string <$> textual.print) with
      | error abort =>
          simp only [Shaped.toTextAttribute, Shaped.encode, all] at written
          cases written
      | ok values =>
          simp only [Shaped.toTextAttribute, Shaped.encode, all] at written
          cases written
          have read := mapM_parse admits all
          simp only [ofAttribute?, Shape.decode, Shape.decodeList, Shaped.shape, Shape.many,
            Function.comp_apply, read]
          rfl
  | optionMany items =>
      cases items with
      | none =>
          cases written
          rfl
      | some items =>
          cases all : items.mapM (fun textual => Value.string <$> textual.print) with
          | error abort =>
              simp only [Shaped.toTextAttribute, Shaped.encode, all] at written
              cases written
          | ok values =>
              simp only [Shaped.toTextAttribute, Shaped.encode, all] at written
              cases written
              have read := mapM_parse admits all
              simp only [ofAttribute?, Shape.decode, Shape.decodeList, Shaped.shape,
                Shape.optionMany, Function.comp_apply, read]
              rfl

-----------------------------------------------------------------------------------------
-- Texts that cannot be written
-----------------------------------------------------------------------------------------

/-- Where there is no text for a value, writing gives up. -/
theorem Textual.print_panic {textual : Textual} {abort : Abort}
    (stops : textual.print = .error abort)
    : ∃ message, abort = .panic message := by
  cases textual with
  | bool b => cases stops
  | integer i => cases stops
  | format f =>
      cases f with
      | bomb =>
          cases stops
          exact ⟨_, rfl⟩
      | _ => cases stops

private theorem mapM_print_panic {items : List Textual} {abort : Abort}
    (stops : items.mapM (fun textual => Value.string <$> textual.print) = .error abort)
    : ∃ message, abort = .panic message := by
  induction items with
  | nil => cases stops
  | cons item rest ih =>
      rw [List.mapM_cons] at stops
      cases first : item.print with
      | error reason =>
          rw [first] at stops
          cases stops
          exact Textual.print_panic first
      | ok text =>
          cases later : rest.mapM (fun textual => Value.string <$> textual.print) with
          | error reason =>
              rw [first, later] at stops
              cases stops
              exact ih later
          | ok values =>
              rw [first, later] at stops
              cases stops

/-- Writing a content of texts gives up where some text cannot be written. -/
theorem Shaped.toTextAttribute_panic {content : Shaped Textual} {abort : Abort}
    (stops : content.toTextAttribute = .error abort)
    : ∃ message, abort = .panic message := by
  have single {item : Textual} (stops : (some <$> (Value.string <$> item.print)) = .error abort)
      : ∃ message, abort = .panic message := by
    cases first : item.print with
    | error reason =>
        rw [first] at stops
        cases stops
        exact Textual.print_panic first
    | ok text =>
        rw [first] at stops
        cases stops
  have several {items : List Textual}
      (stops
        : (some ∘ Value.list) <$> items.mapM (fun textual => Value.string <$> textual.print)
          = .error abort)
      : ∃ message, abort = .panic message := by
    cases all : items.mapM (fun textual => Value.string <$> textual.print) with
    | error reason =>
        rw [all] at stops
        cases stops
        exact mapM_print_panic all
    | ok values =>
        rw [all] at stops
        cases stops
  cases content with
  | one item => exact single stops
  | option item =>
      cases item with
      | none => cases stops
      | some item => exact single stops
  | many items => exact several stops
  | optionMany items =>
      cases items with
      | none => cases stops
      | some items => exact several stops

end EntityStore
