import EntityStore.Proofs.Number.DataText
import EntityStore.Proofs.Number.Narrowing

/-! Which floating point numbers their literals stand for.
What is not finite has no literal. A number of 64 bits is read back from its literal where that shows a
number of at most 53 bits and moves the point by at most 22 places: then the literal lies in the interval of
the number, and it is read with one rounding. A number of 32 bits is rounded twice, and it is read back where
the literal shows so few digits that the first rounding does no harm.
-/

namespace EntityStore.Number

open Json

/-- The literal of a number stands for the number. -/
def Single.lasts (x : Single) : Bool :=
  (Json.ofSingle x).numeral?.map Numeral.toSingle = some x

/-- The literal of a number stands for the number. -/
def Double.lasts (x : Double) : Bool :=
  (Json.ofDouble x).numeral?.map Numeral.toDouble = some x

/-- The literal of a number is read as some number. -/
def Single.isRead (x : Single) : Bool :=
  (Json.ofSingle x).numeral?.isSome

/-- The literal of a number is read as some number. -/
def Double.isRead (x : Double) : Bool :=
  (Json.ofDouble x).numeral?.isSome

/-- What has a literal is finite. -/
theorem Single.isSome_dataText?_of_isRead {x : Single} (read : x.isRead = true)
    : x.dataText?.isSome = true := by
  cases written : x.dataText? with
  | none => simp [isRead, Json.ofSingle, written, numeral?] at read
  | some text => rfl

theorem Double.isSome_dataText?_of_isRead {x : Double} (read : x.isRead = true)
    : x.dataText?.isSome = true := by
  cases written : x.dataText? with
  | none => simp [isRead, Json.ofDouble, written, numeral?] at read
  | some text => rfl

-----------------------------------------------------------------------------------------
-- Short literals
-----------------------------------------------------------------------------------------

/-- A decimal with at most 53 bits of digits, and at most 22 places before or after them. -/
def Decimal.IsShort (d : Decimal) : Prop :=
  d.digits < 2 ^ 53 ∧ -22 ≤ d.exponent ∧ d.exponent ≤ 22
  deriving Decidable

/-- A literal with short digits is read from them. -/
theorem ofLiteral?_dataText {format : Format} {range : PositionalRange} {negative : Bool}
    {significand : Nat} {exponent : Int} {text : String}
    (written : dataText? format range (.finite negative significand exponent) = some text)
    (short : (shownDecimal format range significand exponent).IsShort)
    : Numeral.ofLiteral? text
      = (Numeral.scale? (shownDecimal format range significand exponent).digits
            (shownDecimal format range significand exponent).exponent).map
          (fun x => .real (if negative then x.neg else x)) := by
  obtain ⟨literal, sign, chars, isReal, digits, scale, few⟩ := writes_of_dataText? written
  have length := (Nat.length_toDigits_le_iff (b := 10) (k := 16) (by decide) (by decide)).mpr
    (Nat.lt_trans short.1 (by decide))
  have fits : literal.significand ≤ Numeral.limit := by
    rw [digits]
    exact Nat.le_trans (Nat.le_of_lt short.1) (by decide)
  have exponentFits : ∀ part ∈ literal.exponent, Nat.ofDigitChars 10 part.2 0 ≤ 0x7fffffff := by
    intro part inside
    have := few part inside
    have := short.2
    omega
  rw [Numeral.ofLiteral?_chars chars isReal fits exponentFits, digits, scale, sign]

/-- The digits that are shown of zero are read as zero. -/
theorem scale?_shownDecimal_zero (format : Format) (range : PositionalRange) (exponent : Int)
    : Numeral.scale? (shownDecimal format range 0 exponent).digits
        (shownDecimal format range 0 exponent).exponent
      = some Double.zero := by
  have shown : shownDecimal format range 0 exponent = ⟨0, -1⟩ := by simp [shownDecimal]
  rw [shown]
  decide +kernel

/-- The word of zero. -/
theorem Format.Canonical.word_zero {format : Format} {exponent : Int}
    (canonical : format.Canonical 0 exponent)
    : format.word 0 exponent = 0 := by
  have some := format.fractions_pos
  rw [canonical.full.resolve_right (by omega), Format.word, Int.sub_self]
  simp

-----------------------------------------------------------------------------------------
-- 64 bits
-----------------------------------------------------------------------------------------

namespace Double

/-- The number is finite, and the digits that its literal shows are short. -/
def isShort (x : Double) : Bool :=
  match x.datum with
  | .finite _ significand exponent => (shownDecimal .double .double significand exponent).IsShort
  | _ => false

/-- The shown digits of a number without a sign are read as the number where they are short. -/
theorem scale?_shownDecimal {significand : Nat} {exponent : Int}
    (finite : Format.double.Finite significand exponent)
    (short : (shownDecimal .double .double significand exponent).IsShort)
    : Numeral.scale? (shownDecimal .double .double significand exponent).digits
        (shownDecimal .double .double significand exponent).exponent
      = some (ofWord (Format.double.word significand exponent)) := by
  rcases Nat.eq_zero_or_pos significand with rfl | positive
  · rw [scale?_shownDecimal_zero, finite.word_zero]
    rfl
  · have small : significand ≤ 2 ^ 54 :=
      Nat.le_trans (Nat.le_of_lt finite.small) (by decide)
    exact Numeral.scale?_eq finite positive
      (contains_shownDecimal .double .double positive small exponent) short.1 short.2.1 short.2.2

/-- A number with short digits is read back from its literal. -/
theorem lasts_of_isShort {x : Double} (short : x.isShort = true) : x.lasts = true := by
  unfold isShort at short
  cases meaning : x.datum with
  | nan => simp [meaning] at short
  | infinite negative => simp [meaning] at short
  | finite negative significand exponent =>
      rw [meaning] at short
      have short := of_decide_eq_true short
      obtain ⟨finite, word⟩ := eq_ofWord_of_finite meaning
      obtain ⟨text, written⟩
        : ∃ text, Number.dataText? .double .double (.finite negative significand exponent) = some text :=
        ⟨_, rfl⟩
      have shown : x.dataText? = some text := by rw [dataText?, meaning, written]
      have read := ofLiteral?_dataText written short
      rw [scale?_shownDecimal finite short] at read
      simp only [lasts, Json.ofDouble, shown, numeral?, read, Option.map_some, Numeral.toDouble]
      rw [← word]
      simp

end Double

-----------------------------------------------------------------------------------------
-- 32 bits
-----------------------------------------------------------------------------------------

/-- A decimal that has so few digits that it is not near to any number with few bits but itself. -/
def Decimal.IsPlain (d : Decimal) : Prop :=
  d.digits * 5 ^ d.exponent.toNat ≤ 2 ^ 51 ∧ -12 ≤ d.exponent
  deriving Decidable

/-- Such a decimal is short, unless it is zero. -/
theorem Decimal.IsPlain.isShort {d : Decimal} (plain : d.IsPlain) (positive : d.digits ≠ 0)
    : d.IsShort := by
  obtain ⟨few, least⟩ := plain
  have digits : d.digits ≤ d.digits * 5 ^ d.exponent.toNat :=
    Nat.le_mul_of_pos_right _ (Nat.pow_pos (by decide))
  have fives : 5 ^ d.exponent.toNat ≤ d.digits * 5 ^ d.exponent.toNat :=
    Nat.le_mul_of_pos_left _ (Nat.pos_of_ne_zero positive)
  refine ⟨by omega, by omega, ?_⟩
  by_contra large
  have more : 5 ^ 22 ≤ 5 ^ d.exponent.toNat := Nat.pow_le_pow_right (by decide) (by omega)
  omega

theorem shownDecimal_digits_ne_zero (format : Format) (range : PositionalRange) {significand : Nat}
    (positive : significand ≠ 0) (exponent : Int)
    : (shownDecimal format range significand exponent).digits ≠ 0 := by
  have digits := shortestDecimal_digits_ne_zero format .even positive exponent
  unfold shownDecimal Decimal.pointed
  dsimp only
  rw [if_neg positive]
  split
  · split
    · exact Nat.mul_ne_zero digits (Nat.pow_pos (by decide)).ne'
    · exact digits
  · exact digits

/-- Plain digits of a number are short. -/
theorem isShort_shownDecimal {format : Format} {range : PositionalRange} {significand : Nat}
    {exponent : Int} (plain : (shownDecimal format range significand exponent).IsPlain)
    : (shownDecimal format range significand exponent).IsShort := by
  by_cases zero : significand = 0
  · have shown : shownDecimal format range significand exponent = ⟨0, -1⟩ := if_pos zero
    rw [shown]
    decide
  · exact plain.isShort (shownDecimal_digits_ne_zero format range zero exponent)

namespace Single

/-- The number is finite, and the digits that its literal shows are plain. -/
def isPlain (x : Single) : Bool :=
  match x.datum with
  | .finite _ significand exponent => (shownDecimal .single .single significand exponent).IsPlain
  | _ => false

/-- A number in the interval of a 32 bit number is far above the least 64 bit number. -/
theorem least_le_of_near {x : ℚ} {significand : Nat} {exponent : Int} (positive : 0 < significand)
    (canonical : Format.single.Canonical significand exponent)
    (near : Format.single.Near significand exponent (x / 2 ^ exponent))
    : (2 : ℚ) ^ Format.double.leastExponent ≤ x := by
  have unit : (0 : ℚ) < 2 ^ exponent := by positivity
  have one : (1 : ℚ) ≤ significand := by exact_mod_cast positive
  have half : 1 / 2 ≤ x / 2 ^ exponent := by
    linarith [near.low, Format.single.gap_le significand exponent]
  have above : -149 ≤ exponent := canonical.least
  calc
    (2 : ℚ) ^ (-1074 : Int) ≤ 2 ^ (exponent - 1) := zpow_le_zpow_right₀ (by norm_num) (by omega)
    _ = 1 / 2 * 2 ^ exponent := by
      rw [zpow_sub_one₀ two_ne_zero]
      ring
    _ ≤ x := (le_div_iff₀ unit).mp half

/-- A 64 bit number with a smaller exponent than a 32 bit number is finite. -/
theorem finite_of_finer {significand near : Nat} {exponent fine : Int}
    (finite : Format.single.Finite significand exponent) (canonical : Format.double.Canonical near fine)
    (finer : fine + 2 ≤ exponent)
    : Format.double.Finite near fine := by
  have few : (exponent - -149).toNat < 255 :=
    Nat.lt_of_mul_lt_mul_right (Nat.lt_of_le_of_lt (Nat.le_add_right _ _) finite.bounded)
  have room : (fine - -1074).toNat + 2 ≤ 2047 := by omega
  refine ⟨canonical, ?_⟩
  calc
    Format.double.word near fine < ((fine - -1074).toNat + 2) * Format.double.fractions := by
      rw [Nat.add_mul]
      exact Nat.add_lt_add_left canonical.small _
    _ ≤ Format.double.allOnes * Format.double.fractions := Nat.mul_le_mul_right _ room

/-- A decimal in the interval of a 32 bit number lies in the interval of a 64 bit number. -/
theorem exists_double_contains (d : Decimal) {significand : Nat} {exponent : Int}
    (positive : 0 < significand) (finite : Format.single.Finite significand exponent)
    (digits : d.digits ≠ 0)
    (inside : (Interval.ofFinite .single significand exponent).Contains d.value)
    : ∃ near fine,
        Format.double.Finite near fine
        ∧ 0 < near
        ∧ (Interval.ofFinite .double near fine).Contains d.value := by
  have single := Format.near_of_contains positive inside
  have least := least_le_of_near positive finite.toCanonical single
  have ratio : d.value
      = ((d.digits * 10 ^ d.exponent.toNat : Nat) : ℚ) / ((10 ^ (-d.exponent).toNat : Nat) : ℚ) := by
    have ten := zpow_eq_div 10 d.exponent
    rw [Nat.pow_eq, Nat.pow_eq] at ten
    push_cast at ten ⊢
    rw [Decimal.value, ten, mul_div_assoc]
  have some : 0 < d.digits * 10 ^ d.exponent.toNat :=
    Nat.mul_pos (Nat.pos_of_ne_zero digits) (Nat.pow_pos (by decide))
  rw [ratio] at least
  obtain ⟨near, fine, canonical, positive', inside'⟩ :=
    Format.double.exists_contains rfl some (Nat.pow_pos (by decide)) least
  rw [← ratio] at inside'
  have nearest := (Format.near_of_contains positive' inside').nearest
  obtain ⟨_, finer⟩ := wide_of_contains positive finite.toCanonical single canonical nearest
  exact ⟨near, fine, finite_of_finer finite canonical finer, positive', inside'⟩

/-- Plain digits are read as their number: they are rounded to 64 bits first, and then to 32 bits. -/
theorem exists_scale?_shownDecimal {significand : Nat} {exponent : Int}
    (finite : Format.single.Finite significand exponent)
    (plain : (shownDecimal .single .single significand exponent).IsPlain)
    : ∃ y, Numeral.scale? (shownDecimal .single .single significand exponent).digits
          (shownDecimal .single .single significand exponent).exponent
        = some y
      ∧ ∀ negative : Bool, ofDouble (if negative then y.neg else y)
        = ofWord ((if negative then Format.single.signBit else 0)
          + Format.single.word significand exponent) := by
  rcases Nat.eq_zero_or_pos significand with rfl | positive
  · refine ⟨.zero, scale?_shownDecimal_zero .., fun negative => ?_⟩
    rw [finite.word_zero]
    cases negative <;> decide +kernel
  have small : significand ≤ 2 ^ 54 :=
    Nat.le_trans (Nat.le_of_lt finite.small) (by decide)
  have inside := contains_shownDecimal .single .single positive small exponent
  have digits := shownDecimal_digits_ne_zero .single .single (Nat.ne_of_gt positive) exponent
  generalize shownDecimal .single .single significand exponent = d at *
  obtain ⟨near, fine, finite', positive', inside'⟩ :=
    exists_double_contains d positive finite digits inside
  obtain ⟨short, least, greatest⟩ := plain.isShort digits
  refine ⟨_, Numeral.scale?_eq finite' positive' inside' short least greatest, fun negative => ?_⟩
  exact ofDouble_eq finite positive (Double.datum_signed finite' negative)
    (contains_of_near d positive finite.toCanonical inside plain.1 plain.2 positive'
      finite'.toCanonical inside')

/-- A number with plain digits is read back from its literal. -/
theorem lasts_of_isPlain {x : Single} (plain : x.isPlain = true) : x.lasts = true := by
  unfold isPlain at plain
  cases meaning : x.datum with
  | nan => simp [meaning] at plain
  | infinite negative => simp [meaning] at plain
  | finite negative significand exponent =>
      rw [meaning] at plain
      have plain := of_decide_eq_true plain
      obtain ⟨finite, word⟩ := eq_ofWord_of_finite meaning
      obtain ⟨text, written⟩
        : ∃ text, Number.dataText? .single .single (.finite negative significand exponent) = some text :=
        ⟨_, rfl⟩
      have shown : x.dataText? = some text := by rw [dataText?, meaning, written]
      have read := ofLiteral?_dataText written (isShort_shownDecimal plain)
      obtain ⟨y, scale, rounded⟩ := exists_scale?_shownDecimal finite plain
      rw [scale] at read
      simp only [lasts, Json.ofSingle, shown, numeral?, read, Option.map_some, Numeral.toSingle]
      rw [rounded, ← word]
      simp

end Single

end EntityStore.Number
