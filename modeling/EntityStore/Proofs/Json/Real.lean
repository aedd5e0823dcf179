import EntityStore.Proofs.Json.Literal
import EntityStore.Proofs.Number.Word

/-! Literals that are read with one rounding.
A whole number below two to the 53 is a floating point number, and so is every power of ten up to the
twenty-second. So a literal with such a significand and such an exponent is read with one rounding only, and
every number in whose interval it lies is read back from it.
-/

namespace EntityStore.Json

open Number

-----------------------------------------------------------------------------------------
-- Significands and exponents
-----------------------------------------------------------------------------------------

namespace Literal

/-- The digits of a literal as one number. -/
def significand (literal : Literal) : Nat :=
  Nat.ofDigitChars 10 (literal.whole ++ literal.fraction) 0

/-- The exponent of ten that is written. -/
def writtenExponent (literal : Literal) : Int :=
  match literal.exponent with
  | none => 0
  | some (down, digits) =>
      if down then -(Nat.ofDigitChars 10 digits 0 : Nat) else Nat.ofDigitChars 10 digits 0

/-- The exponent of ten of the last digit. -/
def scale (literal : Literal) : Int :=
  literal.writtenExponent - literal.fraction.length

/-- The literal is written as a floating point number. -/
def IsReal (literal : Literal) : Prop :=
  literal.fraction ≠ [] ∨ literal.exponent ≠ none

end Literal

namespace Numeral

/-- An exponent that 32 bits hold is read digit by digit.
Witness: induction on the digits; the number only grows.
-/
theorem exponentValue?_foldl {digits : List Char} {n : Nat}
    (fits : Nat.ofDigitChars 10 digits n ≤ 0x7fffffff)
    : digits.foldl
        (fun n c => do
          let n := 10 * (← n) + digitValue c
          if n ≤ 0x7fffffff then some n else none)
        (some n)
      = some (Nat.ofDigitChars 10 digits n) := by
  induction digits generalizing n with
  | nil => rfl
  | cons c rest ih =>
      have fits : Nat.ofDigitChars 10 rest (10 * n + digitValue c) ≤ 0x7fffffff := fits
      have next := Nat.le_trans (le_ofDigitChars rest _) fits
      rw [List.foldl_cons]
      change List.foldl _ (if 10 * n + digitValue c ≤ 0x7fffffff then _ else _) rest = _
      rw [if_pos next]
      exact ih fits

/-- The exponent of a literal moves its point. -/
theorem realOf?_exponentChars {literal : Literal}
    (fits : ∀ part ∈ literal.exponent, Nat.ofDigitChars 10 part.2 0 ≤ 0x7fffffff)
    (significand : Nat) (exponent : Int)
    : realOf? significand exponent literal.exponentChars
      = scale? significand (exponent + literal.writtenExponent) := by
  unfold Literal.exponentChars Literal.writtenExponent
  cases form : literal.exponent with
  | none => simp [realOf?]
  | some part =>
      obtain ⟨down, digits⟩ := part
      have value : exponentValue? digits = some (Nat.ofDigitChars 10 digits 0) :=
        exponentValue?_foldl (fits (down, digits) form)
      cases down with
      | true => simp [realOf?, value, Int.sub_eq_add_neg]
      | false => simp [realOf?, value]

/-- The fraction of a literal stands between its point and its exponent. -/
theorem digits_fraction (literal : Literal)
    : (match literal.fractionChars ++ literal.exponentChars with
        | '.' :: rest => digits rest
        | rest => ([], rest))
      = (literal.fraction, literal.exponentChars) := by
  have stop : NoDigit literal.exponentChars := by
    have stop := literal.noDigit_exponent .nil
    rwa [List.append_nil] at stop
  unfold Literal.fractionChars
  by_cases none : literal.fraction = []
  · rw [if_pos none, none, List.nil_append]
    unfold Literal.exponentChars
    cases literal.exponent <;> rfl
  · rw [if_neg none, List.cons_append]
    exact digits_append literal.fractionDigits stop

/-- The sign of a literal stands in front of its whole part. -/
theorem sign_chars (literal : Literal)
    : (match literal.chars with
        | '-' :: rest => (true, rest)
        | rest => (false, rest))
      = (literal.isNegative, literal.whole ++ (literal.fractionChars ++ literal.exponentChars)) := by
  obtain ⟨c, more, form, other⟩ : ∃ c more, literal.whole = c :: more ∧ c ≠ '-' := by
    rcases literal.wholeForm with zero | ⟨c, more, form, _⟩
    · exact ⟨'0', [], zero, by decide⟩
    · have digit := literal.wholeDigits c (by rw [form]; exact List.mem_cons_self)
      exact ⟨c, more, form, ne_of_isDigit digit (by decide)⟩
  unfold Literal.chars Literal.signChars
  cases literal.isNegative with
  | true => simp
  | false =>
      rw [form]
      simp only [Bool.false_eq_true, if_false, List.nil_append, List.cons_append, List.append_assoc]
      split
      · next same => exact absurd (List.cons.inj same).1 other
      · rfl

/-- A literal that is written as a floating point number is read from its digits and its exponent. -/
theorem ofLiteral?_chars {literal : Literal} {text : String} (written : literal.chars = text.toList)
    (isReal : literal.IsReal) (fits : literal.significand ≤ limit)
    (exponentFits : ∀ part ∈ literal.exponent, Nat.ofDigitChars 10 part.2 0 ≤ 0x7fffffff)
    : ofLiteral? text
      = (scale? literal.significand literal.scale).map
          (fun x => .real (if literal.isNegative then x.neg else x)) := by
  have stop := literal.noDigit_fraction .nil
  rw [List.append_nil] at stop
  have whole := digits_append literal.wholeDigits stop
  have fraction := digits_fraction literal
  have total : Nat.ofDigitChars 10 literal.fraction (Nat.ofDigitChars 10 literal.whole 0)
      = literal.significand := (Nat.ofDigitChars_append 0).symm
  have rest : absorb (Nat.ofDigitChars 10 literal.whole 0) literal.fraction
      = (literal.significand, literal.fraction.length, []) := by
    rw [absorb_eq (by rw [total]; exact fits), total]
  have first : absorb 0 literal.whole
      = (Nat.ofDigitChars 10 literal.whole 0, literal.whole.length, []) :=
    absorb_eq (Nat.le_trans (le_ofDigitChars literal.fraction _) (by rw [total]; exact fits))
  have real := realOf?_exponentChars exponentFits literal.significand (-literal.fraction.length)
  have scale : -(literal.fraction.length : Int) + literal.writtenExponent = literal.scale := by
    rw [Literal.scale]
    omega
  have notInteger : ¬ (([] : List Char).isEmpty = true ∧ literal.fraction.isEmpty = true
      ∧ literal.exponentChars.isEmpty = true) := by
    rintro ⟨-, noFraction, noExponent⟩
    rcases isReal with some | some
    · exact some (List.isEmpty_iff.mp noFraction)
    · unfold Literal.exponentChars at noExponent
      cases form : literal.exponent with
      | none => exact some form
      | some part => simp [form] at noExponent
  unfold ofLiteral?
  rw [← written]
  split
  next isNegative chars signs =>
    obtain ⟨rfl, rfl⟩ := Prod.mk.inj (signs.symm.trans (sign_chars literal))
    rw [whole]
    split
    next digits chars parts =>
      obtain ⟨rfl, rfl⟩ := Prod.mk.inj parts.symm
      split
      next digits exponent point =>
        obtain ⟨rfl, rfl⟩ := Prod.mk.inj (point.symm.trans fraction)
        simp only [first, if_neg notInteger, rest, List.length_nil]
        rw [Nat.cast_zero, Int.zero_sub, real, scale]
        cases scale? literal.significand literal.scale <;> rfl

-----------------------------------------------------------------------------------------
-- Exact numbers
-----------------------------------------------------------------------------------------

/-- The magnitude of a number is a quotient exactly. -/
structure Exact (x : Double) (n : Nat) : Prop where
  positive : 0 < (ratio x).2
  same : (ratio x).1 = n * (ratio x).2

/-- Powers of ten up to the twenty-second are exact. -/
theorem exact_powerOfTen {n : Nat} (few : n ≤ 22) : Exact (powerOfTen n) (10 ^ n) := by
  have all : ∀ n ≤ 22, 0 < (ratio (powerOfTen n)).2
      ∧ (ratio (powerOfTen n)).1 = Nat.pow 10 n * (ratio (powerOfTen n)).2 := by
    decide +kernel
  exact ⟨(all n few).1, (all n few).2⟩

/-- A whole number of at most 53 bits has a significand of full width. -/
theorem exists_finite {n : Nat} (positive : n ≠ 0) (small : n < 2 ^ 53)
    : ∃ shift : Nat, Format.double.Finite (n * 2 ^ shift) (-(shift : Int)) := by
  have bits : n.log2 < 53 := (Nat.log2_lt positive).mpr small
  have low := Nat.log2_self_le positive
  have high := Nat.lt_log2_self (n := n)
  have full : 2 ^ n.log2 * 2 ^ (52 - n.log2) = 2 ^ 52 := by
    rw [← Nat.pow_add, Nat.add_sub_cancel' (by omega)]
  have least : 2 ^ 52 ≤ n * 2 ^ (52 - n.log2) := by
    rw [← full]
    exact Nat.mul_le_mul_right _ low
  have greatest : n * 2 ^ (52 - n.log2) < 2 * 2 ^ 52 := by
    rw [← full, ← Nat.mul_assoc, Nat.mul_comm 2, ← Nat.pow_succ]
    exact Nat.mul_lt_mul_of_pos_right high (Nat.two_pow_pos _)
  have fractions : Format.double.fractions = 2 ^ 52 := rfl
  have leastExponent : Format.double.leastExponent = -1074 := rfl
  have allOnes : Format.double.allOnes = 2047 := rfl
  refine ⟨52 - n.log2, ⟨by omega, by omega, Or.inr (by omega)⟩, ?_⟩
  rw [Format.word, leastExponent, fractions, allOnes]
  have rank : (-((52 - n.log2 : Nat) : Int) - -1074).toNat ≤ 1074 := by omega
  have := Nat.mul_le_mul_right (2 ^ 52) rank
  omega

/-- Whole numbers of at most 53 bits are exact. -/
theorem exact_ofInt {n : Nat} (small : n < 2 ^ 53) : Exact (.ofInt n) n := by
  by_cases zero : n = 0
  · subst zero
    exact ⟨by decide, by decide⟩
  · obtain ⟨shift, finite⟩ := exists_finite zero small
    have above : 0 < n * 2 ^ shift := Nat.mul_pos (Nat.pos_of_ne_zero zero) (Nat.two_pow_pos _)
    have inside : (Interval.ofFinite .double (n * 2 ^ shift) (-(shift : Int))).Contains _ :=
      Interval.contains_self above _
    have whole : ((n * 2 ^ shift : Nat) : ℚ) * 2 ^ (-(shift : Int)) = (n : ℚ) / (1 : Nat) := by
      rw [zpow_neg, zpow_natCast]
      push_cast
      field_simp
    rw [whole] at inside
    have word := Double.ofRatio_eq finite above Nat.one_pos inside
    have same : Double.ofInt n = Double.ofRatio false n 1 := by
      rw [Double.ofInt, Double.ofRatio, decide_eq_false (Int.not_lt.mpr (Int.natCast_nonneg n)),
        Int.natAbs_natCast]
    have datum : (Double.ofWord _).datum = _ := Double.datum_signed finite false
    have ratio : ratio (Double.ofInt n) = (n * 2 ^ shift, 2 ^ shift) := by
      rw [same, word, Numeral.ratio, datum]
      simp [Nat.one_shiftLeft]
    exact ⟨by rw [ratio]; exact Nat.two_pow_pos _, by rw [ratio]⟩

variable {significand : Nat} {exponent : Int} {x y : Double} {m n : Nat}

/-- The product of exact numbers is rounded once. -/
theorem times_eq (finite : Format.double.Finite significand exponent) (above : 0 < significand)
    (exact : Exact x m) (exact' : Exact y n)
    (inside : (Interval.ofFinite .double significand exponent).Contains (m * n))
    : times x y = .ofWord (Format.double.word significand exponent) := by
  have left : ((ratio x).2 : ℚ) ≠ 0 := by exact_mod_cast exact.positive.ne'
  have right : ((ratio y).2 : ℚ) ≠ 0 := by exact_mod_cast exact'.positive.ne'
  refine Double.ofRatio_eq finite above (Nat.mul_pos exact.positive exact'.positive) ?_
  rw [exact.same, exact'.same]
  push_cast
  rwa [mul_mul_mul_comm, mul_div_cancel_right₀ _ (mul_ne_zero left right)]

/-- The quotient of exact numbers is rounded once. -/
theorem quotient_eq (finite : Format.double.Finite significand exponent) (above : 0 < significand)
    (exact : Exact x m) (exact' : Exact y n) (positive : 0 < n)
    (inside : (Interval.ofFinite .double significand exponent).Contains (m / n))
    : quotient x y = .ofWord (Format.double.word significand exponent) := by
  have left : ((ratio x).2 : ℚ) ≠ 0 := by exact_mod_cast exact.positive.ne'
  have right : ((ratio y).2 : ℚ) ≠ 0 := by exact_mod_cast exact'.positive.ne'
  refine Double.ofRatio_eq finite above ?_ ?_
  · rw [exact'.same]
    exact Nat.mul_pos exact.positive (Nat.mul_pos positive exact'.positive)
  · rw [exact.same, exact'.same]
    push_cast
    rwa [mul_left_comm _ (n : ℚ), mul_assoc, mul_div_mul_right _ _ (mul_ne_zero left right)]

/-- A short significand with a short exponent is read as the number in whose interval it lies. -/
theorem scale?_eq (finite : Format.double.Finite significand exponent) (above : 0 < significand)
    {scale : Int}
    (inside : (Interval.ofFinite .double significand exponent).Contains (n * 10 ^ scale))
    (small : n < 2 ^ 53) (least : -22 ≤ scale) (greatest : scale ≤ 22)
    : scale? n scale = some (.ofWord (Format.double.word significand exponent)) := by
  have exact := exact_ofInt small
  unfold scale?
  dsimp only
  by_cases down : scale < 0
  · obtain ⟨k, rfl⟩ : ∃ k : Nat, scale = -k := ⟨scale.natAbs, by omega⟩
    have few : k ≤ 22 := by omega
    have power : (n : ℚ) * 10 ^ (-(k : Int)) = n / (10 ^ k : Nat) := by
      rw [zpow_neg, zpow_natCast, div_eq_mul_inv]
      push_cast
      rfl
    rw [power] at inside
    rw [if_pos down, Int.natAbs_neg, Int.natAbs_natCast, scaleDown, if_pos (by unfold step; omega),
      quotient_eq finite above exact (exact_powerOfTen few) (Nat.pow_pos (by decide)) inside]
  · obtain ⟨k, rfl⟩ : ∃ k : Nat, scale = k := ⟨scale.natAbs, by omega⟩
    have few : k ≤ 22 := by omega
    have power : (n : ℚ) * 10 ^ (k : Int) = n * (10 ^ k : Nat) := by
      rw [zpow_natCast]
      push_cast
      rfl
    rw [power] at inside
    have datum : (Double.ofWord _).datum = _ := Double.datum_signed finite false
    rw [if_neg down, Int.toNat_natCast, if_pos (by unfold step; omega),
      times_eq finite above exact (exact_powerOfTen few) inside, Double.isInfinite, datum]
    rfl

end Numeral

end EntityStore.Json
