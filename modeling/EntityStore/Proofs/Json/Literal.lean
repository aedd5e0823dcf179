import EntityStore.Json.Numeral

/-! Number literals as they are written.
A literal is a sign, a whole part without a leading zero, a fraction and an exponent. It is scanned as a
whole wherever nothing follows it that would carry it on, and nothing of the kind follows a number in a
document.
-/

namespace EntityStore.Json

-----------------------------------------------------------------------------------------
-- Digits
-----------------------------------------------------------------------------------------

/-- The characters are decimal digits. -/
def AllDigits (chars : List Char) : Prop :=
  ∀ c ∈ chars, isDigit c = true

/-- What may follow digits that are scanned to their end. -/
def NoDigit (rest : List Char) : Prop :=
  ∀ c ∈ rest.head?, isDigit c = false

/-- Digits are scanned to their end. -/
theorem digits_append {chars rest : List Char} (all : AllDigits chars) (stop : NoDigit rest)
    : digits (chars ++ rest) = (chars, rest) := by
  unfold digits
  rw [List.takeWhile_append_of_pos all, List.dropWhile_append_of_pos all]
  cases rest with
  | nil => simp
  | cons c rest =>
      have other : isDigit c = false := stop c rfl
      simp [other]

theorem digits_of_all {chars : List Char} (all : AllDigits chars) : digits chars = (chars, []) := by
  have scanned : digits (chars ++ []) = (chars, []) := digits_append all (by simp [NoDigit])
  rwa [List.append_nil] at scanned

/-- The digits of a number are digits. -/
theorem allDigits_toDigits (n : Nat) : AllDigits (Nat.toDigits 10 n) := by
  intro c inside
  have digit := Nat.isDigit_of_mem_toDigits (by decide) (by decide) inside
  simp only [Char.isDigit, Bool.and_eq_true, decide_eq_true_eq] at digit
  exact decide_eq_true ⟨digit.1, digit.2⟩

/-- A digit is no letter and no sign. -/
theorem ne_of_isDigit {c other : Char} (digit : isDigit c = true) (not : isDigit other = false)
    : c ≠ other := by
  intro same
  rw [same, not] at digit
  contradiction

/-- Only the digits of zero start with a zero.
Witness: induction on the number, digit by digit.
-/
theorem toDigits_head_ne_zero {n : Nat} (positive : n ≠ 0)
    : ∃ c rest, Nat.toDigits 10 n = c :: rest ∧ c ≠ '0' := by
  induction n using Nat.strongRecOn with
  | ind n ih =>
      rw [Nat.toDigits_eq_if (by decide)]
      split
      · next small =>
          have other : ∀ d < 10, d ≠ 0 → Nat.digitChar d ≠ '0' := by decide
          exact ⟨n.digitChar, [], rfl, other n small positive⟩
      · next large =>
          obtain ⟨c, rest, digits, other⟩ := ih (n / 10) (by omega) (by omega)
          exact ⟨c, rest ++ _, by rw [digits]; rfl, other⟩

-----------------------------------------------------------------------------------------
-- Literals
-----------------------------------------------------------------------------------------

/-- The parts of a number literal. A fraction without digits is not there. -/
structure Literal where
  isNegative : Bool
  whole : List Char
  fraction : List Char
  /-- Whether the exponent is negative, and its digits. -/
  exponent : Option (Bool × List Char)
  wholeDigits : AllDigits whole
  wholeForm : whole = ['0'] ∨ ∃ c rest, whole = c :: rest ∧ c ≠ '0'
  fractionDigits : AllDigits fraction
  exponentDigits : ∀ part ∈ exponent, part.2 ≠ [] ∧ AllDigits part.2

namespace Literal

/-- The sign of a literal. -/
def signChars (literal : Literal) : List Char :=
  if literal.isNegative then ['-'] else []

/-- The fraction of a literal with its point. -/
def fractionChars (literal : Literal) : List Char :=
  if literal.fraction = [] then [] else '.' :: literal.fraction

/-- The exponent of a literal with its letter and its sign. -/
def exponentChars (literal : Literal) : List Char :=
  match literal.exponent with
  | none => []
  | some (down, digits) => 'e' :: (if down then '-' else '+') :: digits

/-- The characters of a literal. -/
def chars (literal : Literal) : List Char :=
  literal.signChars ++ literal.whole ++ literal.fractionChars ++ literal.exponentChars

end Literal

/-- What may follow a value in a document. -/
def Ends (rest : List Char) : Prop :=
  ∀ c ∈ rest.head?, c = ',' ∨ c = ']' ∨ c = '}'

/-- The end of a text ends a value. -/
theorem Ends.nil : Ends [] := by
  intro c first
  cases first

theorem Ends.noDigit {rest : List Char} (ends : Ends rest) : NoDigit rest := by
  intro c first
  rcases ends c first with rfl | rfl | rfl <;> decide

variable {rest : List Char}

theorem scanWhole_append (literal : Literal) (stop : NoDigit rest)
    : scanWhole (literal.whole ++ rest) = some (literal.whole, rest) := by
  unfold scanWhole
  rw [digits_append literal.wholeDigits stop]
  rcases literal.wholeForm with zero | ⟨c, more, form, other⟩
  · rw [zero]
    rfl
  · rw [form]
    split
    · next same => cases same
    · next same =>
        cases same
        exact absurd rfl other
    · next same => rw [same]

theorem scanFraction_append (literal : Literal) (stop : NoDigit rest) (point : rest.head? ≠ some '.')
    : scanFraction (literal.fractionChars ++ rest) = some (literal.fractionChars, rest) := by
  unfold Literal.fractionChars
  split
  · unfold scanFraction
    split
    · next same =>
        rw [List.nil_append] at same
        rw [same] at point
        exact absurd rfl point
    · rfl
  · next some =>
      rw [List.cons_append, scanFraction, digits_append literal.fractionDigits stop]
      cases form : literal.fraction with
      | nil => exact absurd form some
      | cons c more => rfl

theorem scanExponent_append (literal : Literal) (ends : Ends rest)
    : scanExponent (literal.exponentChars ++ rest) = some (literal.exponentChars, rest) := by
  unfold Literal.exponentChars
  split
  · cases rest with
    | nil => rfl
    | cons c rest =>
        rcases ends c rfl with rfl | rfl | rfl <;> rfl
  · next down chars form =>
      obtain ⟨some, all⟩ := literal.exponentDigits (down, chars) form
      have scanned := digits_append all ends.noDigit
      dsimp only at some
      cases chars with
      | nil => exact absurd rfl some
      | cons c more =>
          rw [List.cons_append] at scanned
          cases down <;> simp [scanExponent, scanned]

/-- What starts with the fraction or the exponent of a literal starts with no digit. -/
theorem Literal.noDigit_exponent (literal : Literal) (ends : Ends rest)
    : NoDigit (literal.exponentChars ++ rest) := by
  unfold exponentChars
  split
  · exact ends.noDigit
  · intro c first
    cases first
    rfl

theorem Literal.noDigit_fraction (literal : Literal) (ends : Ends rest)
    : NoDigit (literal.fractionChars ++ (literal.exponentChars ++ rest)) := by
  unfold fractionChars
  split
  · exact literal.noDigit_exponent ends
  · intro c first
    cases first
    rfl

/-- A literal is scanned to its end. -/
theorem scanNumber_append (literal : Literal) (ends : Ends rest)
    : scanNumber (literal.chars ++ rest) = some (literal.chars, rest) := by
  have point : (literal.exponentChars ++ rest).head? ≠ some '.' := by
    unfold Literal.exponentChars
    split
    · intro first
      rcases ends '.' first with same | same | same <;> contradiction
    · simp
  obtain ⟨c, more, form, other⟩ : ∃ c more, literal.whole = c :: more ∧ c ≠ '-' := by
    rcases literal.wholeForm with zero | ⟨c, more, form, _⟩
    · exact ⟨'0', [], zero, by decide⟩
    · have digit := literal.wholeDigits c (by rw [form]; exact List.mem_cons_self)
      exact ⟨c, more, form, ne_of_isDigit digit (by decide)⟩
  have whole := scanWhole_append literal (literal.noDigit_fraction ends)
  have fraction := scanFraction_append literal (literal.noDigit_exponent ends) point
  have exponent := scanExponent_append literal ends
  unfold Literal.chars Literal.signChars scanNumber
  cases literal.isNegative with
  | true =>
      simp only [if_true, List.append_assoc, List.cons_append, List.nil_append, whole, fraction,
        exponent, Option.bind_eq_bind, Option.bind_some]
      rfl
  | false =>
      simp only [Bool.false_eq_true, if_false, List.append_assoc, List.nil_append]
      split
      · next same =>
          rw [form] at same
          exact absurd (List.cons.inj same).1 other
      · simp only [whole, fraction, exponent, Option.bind_eq_bind, Option.bind_some]
        rfl

/-- A literal starts with a sign or a digit. -/
theorem Literal.chars_head (literal : Literal)
    : ∃ c rest, literal.chars = c :: rest ∧ (c = '-' ∨ isDigit c = true) := by
  obtain ⟨c, more, form⟩ : ∃ c more, literal.whole = c :: more := by
    rcases literal.wholeForm with zero | ⟨c, more, form, _⟩
    · exact ⟨_, _, zero⟩
    · exact ⟨c, more, form⟩
  have digit := literal.wholeDigits c (by rw [form]; exact List.mem_cons_self)
  unfold chars signChars
  cases literal.isNegative with
  | true => exact ⟨'-', _, rfl, Or.inl rfl⟩
  | false => exact ⟨c, _, by rw [form]; rfl, Or.inr digit⟩

/-- The text is a number literal. -/
def IsLiteral (text : String) : Prop :=
  ∃ literal : Literal, literal.chars = text.toList

-----------------------------------------------------------------------------------------
-- Whole numbers
-----------------------------------------------------------------------------------------

/-- The digits of a number as a whole part. -/
theorem toDigits_whole (n : Nat)
    : Nat.toDigits 10 n = ['0'] ∨ ∃ c rest, Nat.toDigits 10 n = c :: rest ∧ c ≠ '0' := by
  by_cases zero : n = 0
  · exact Or.inl (by rw [zero]; rfl)
  · exact Or.inr (toDigits_head_ne_zero zero)

/-- The literal of a whole number. -/
def Literal.ofInt (i : Int) : Literal where
  isNegative := i < 0
  whole := Nat.toDigits 10 i.natAbs
  fraction := []
  exponent := none
  wholeDigits := allDigits_toDigits i.natAbs
  wholeForm := toDigits_whole i.natAbs
  fractionDigits := by simp [AllDigits]
  exponentDigits := by simp

theorem toList_integerText (i : Int)
    : (Number.integerText i).toList
      = (if i < 0 then ['-'] else []) ++ Nat.toDigits 10 i.natAbs := by
  unfold Number.integerText Number.digitText
  split <;> simp

theorem isLiteral_integerText (i : Int) : IsLiteral (Number.integerText i) := by
  refine ⟨.ofInt i, ?_⟩
  rw [toList_integerText]
  simp [Literal.ofInt, Literal.chars, Literal.signChars, Literal.fractionChars,
    Literal.exponentChars]

namespace Numeral

/-- Digits only add to a number. -/
theorem le_ofDigitChars (chars : List Char) (n : Nat) : n ≤ Nat.ofDigitChars 10 chars n := by
  induction chars generalizing n with
  | nil => exact Nat.le_refl n
  | cons c rest ih =>
      have more := ih (10 * n + (c.toNat - '0'.toNat))
      rw [Nat.ofDigitChars, List.foldl_cons] at *
      exact Nat.le_trans (by omega) more

/-- Digits that stay within the limit are all taken. -/
theorem absorb_eq {chars : List Char} {n : Nat} (fits : Nat.ofDigitChars 10 chars n ≤ limit)
    : absorb n chars = (Nat.ofDigitChars 10 chars n, chars.length, []) := by
  induction chars generalizing n with
  | nil => rfl
  | cons c rest ih =>
      have fits : Nat.ofDigitChars 10 rest (10 * n + digitValue c) ≤ limit := fits
      have next := Nat.le_trans (le_ofDigitChars rest _) fits
      rw [absorb]
      dsimp only
      rw [if_pos next, ih fits]
      rfl

/-- The digits of a whole number are read as the number. -/
theorem ofLiteral?_integerText {i : Int} (fits : i.natAbs ≤ limit)
    (least : i < 0 → i.natAbs ≤ 0x8000000000000000)
    : ofLiteral? (Number.integerText i)
      = some (if i < 0 then .negative i.natAbs else .natural i.natAbs) := by
  have scanned := digits_of_all (allDigits_toDigits i.natAbs)
  have taken : absorb 0 (Nat.toDigits 10 i.natAbs)
      = (i.natAbs, (Nat.toDigits 10 i.natAbs).length, []) := by
    have same := Nat.ofDigitChars_ten_toDigits (n := i.natAbs)
    rw [absorb_eq (by rw [same]; exact fits), same]
  unfold ofLiteral?
  rw [toList_integerText]
  by_cases negative : i < 0
  · have positive : 0 < i.natAbs := by omega
    simp only [if_pos negative, List.cons_append, List.nil_append, scanned, taken]
    simp [positive, least negative]
  · obtain ⟨c, rest, form, other⟩ : ∃ c rest, Nat.toDigits 10 i.natAbs = c :: rest ∧ c ≠ '-' := by
      cases form : Nat.toDigits 10 i.natAbs with
      | nil => exact absurd form Nat.toDigits_ne_nil
      | cons c rest =>
          have digit := allDigits_toDigits i.natAbs c (by rw [form]; exact List.mem_cons_self)
          exact ⟨c, rest, rfl, ne_of_isDigit digit (by decide)⟩
    simp only [if_neg negative, List.nil_append]
    rw [form] at scanned taken ⊢
    split
    · next same => exact absurd (List.cons.inj same).1 other
    · simp [scanned, taken]

end Numeral

/-- A number of 64 bits is read back. -/
theorem toUInt64?_ofInt (n : UInt64) : (ofInt n.toNat).toUInt64? = some n := by
  have small := n.toNat_lt
  have read : Numeral.ofLiteral? (Number.integerText n.toNat) = some (.natural n.toNat) := by
    rw [Numeral.ofLiteral?_integerText (by simp only [Numeral.limit]; omega) (by omega)]
    simp
  have fits : (0 : Int) ≤ n.toNat ∧ (n.toNat : Int) ≤ 0xffffffffffffffff := by omega
  simp only [toUInt64?, numeral?, ofInt, read, Numeral.toInt?, Option.bind_eq_bind,
    Option.bind_some, if_pos fits]
  simp

/-- A number of 64 bits with a sign is read back. -/
theorem toInt64?_ofInt (i : Int64) : (ofInt i.toInt).toInt64? = some i := by
  have least := i.le_toInt
  have greatest := i.toInt_lt
  have read := Numeral.ofLiteral?_integerText (i := i.toInt)
    (by simp only [Numeral.limit]; omega) (by omega)
  have value : (if i.toInt < 0 then Numeral.negative i.toInt.natAbs
      else .natural i.toInt.natAbs).toInt? = some i.toInt := by
    split
    · simp only [Numeral.toInt?, Option.some.injEq]
      omega
    · simp only [Numeral.toInt?, Option.some.injEq]
      omega
  have fits : -0x8000000000000000 ≤ i.toInt ∧ i.toInt ≤ 0x7fffffffffffffff := by omega
  simp only [toInt64?, numeral?, ofInt, read, Option.bind_eq_bind, Option.bind_some, value,
    if_pos fits]
  simp

end EntityStore.Json
