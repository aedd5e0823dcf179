import Mathlib.Algebra.Order.Field.Power
import Mathlib.Algebra.Order.Ring.Rat
import Mathlib.Data.Rat.Cast.Order
import Mathlib.Tactic.FieldSimp
import Mathlib.Tactic.Linarith
import Mathlib.Tactic.Positivity
import Mathlib.Tactic.Ring
import EntityStore.Number.Shortest

/-! Rounding gives back a number from every quotient in its interval.
A finite number of a format has one significand and one exponent. A quotient in the interval of a number
has its exponent, except just below a power of two, where the exponent is one less and the significand is
rounded up to the power again.
-/

namespace EntityStore.Number

-----------------------------------------------------------------------------------------
-- Powers
-----------------------------------------------------------------------------------------

/-- A power with a positive or a negative exponent as a quotient of whole numbers. -/
theorem zpow_eq_div (base : Nat) (exponent : Int)
    : (base : ℚ) ^ exponent
      = (Nat.pow base exponent.toNat : Nat) / (Nat.pow base (-exponent).toNat : Nat) := by
  rcases Int.le_total 0 exponent with up | down
  · obtain ⟨n, rfl⟩ := Int.eq_ofNat_of_zero_le up
    simp
  · obtain ⟨n, same⟩ := Int.eq_ofNat_of_zero_le (Int.neg_nonneg.mpr down)
    obtain rfl : exponent = -n := by omega
    simp

/-- A shifted one is a power of two. -/
theorem cast_one_shiftLeft (n : Nat) : ((1 <<< n : Nat) : ℚ) = 2 ^ n := by
  rw [Nat.one_shiftLeft]
  push_cast
  rfl

/-- A step down to the next power of two doubles the quotient. -/
theorem div_two_zpow_pred (x : ℚ) (exponent : Int) : x / 2 ^ (exponent - 1) = 2 * (x / 2 ^ exponent) := by
  rw [zpow_sub_one₀ two_ne_zero]
  field_simp

namespace Format

variable {format : Format}

/-- A quotient divided by a power of two. -/
theorem scaled_ratio (numerator : Nat) {denominator : Nat} (positive : 0 < denominator) (exponent : Int)
    : 0 < (scaled numerator denominator exponent).2
      ∧ ((scaled numerator denominator exponent).1 : ℚ) / (scaled numerator denominator exponent).2
        = numerator / denominator / 2 ^ exponent := by
  have power := zpow_eq_div 2 exponent
  have up : (0 : ℚ) < 2 ^ exponent.toNat := by positivity
  have down : (0 : ℚ) < 2 ^ (-exponent).toNat := by positivity
  have below : (0 : ℚ) < denominator := by exact_mod_cast positive
  unfold scaled
  rw [Nat.shiftLeft_eq, Nat.shiftLeft_eq]
  refine ⟨Nat.mul_pos positive (Nat.two_pow_pos _), ?_⟩
  push_cast [Nat.pow_eq] at power ⊢
  rw [power]
  field_simp

-----------------------------------------------------------------------------------------
-- Nearest whole numbers
-----------------------------------------------------------------------------------------

/-- A whole number is at most a half away from a number, and less where it is odd. -/
structure Nearest (n : Nat) (x : ℚ) : Prop where
  low : n - 1 / 2 ≤ x
  high : x ≤ n + 1 / 2
  odd : n % 2 = 1 → n - 1 / 2 < x ∧ x < n + 1 / 2

/-- What a quotient is rounded to, measured in halves of the divisor. -/
theorem roundHalfEven_spec (numerator : Nat) {denominator : Nat} (positive : 0 < denominator)
    : 2 * (roundHalfEven numerator denominator * denominator) ≤ 2 * numerator + denominator
      ∧ 2 * numerator ≤ 2 * (roundHalfEven numerator denominator * denominator) + denominator
      ∧ (roundHalfEven numerator denominator % 2 = 1
        → 2 * (roundHalfEven numerator denominator * denominator) < 2 * numerator + denominator
          ∧ 2 * numerator < 2 * (roundHalfEven numerator denominator * denominator) + denominator) := by
  have parts := Nat.div_add_mod numerator denominator
  have small := Nat.mod_lt numerator positive
  rw [Nat.mul_comm] at parts
  unfold roundHalfEven
  dsimp only
  generalize numerator / denominator = quotient at *
  generalize numerator % denominator = rest at *
  have next := Nat.add_one_mul quotient denominator
  split
  · omega
  · split
    · omega
    · rcases Nat.mod_two_eq_zero_or_one quotient with even | odd
      · rw [even, Nat.add_zero]
        omega
      · rw [odd]
        omega

/-- A quotient is rounded to a nearest whole number. -/
theorem nearest_roundHalfEven (numerator : Nat) {denominator : Nat} (positive : 0 < denominator)
    : Nearest (roundHalfEven numerator denominator) (numerator / denominator) := by
  have below : (0 : ℚ) < denominator := by exact_mod_cast positive
  obtain ⟨low, high, odd⟩ := roundHalfEven_spec numerator positive
  generalize roundHalfEven numerator denominator = r at *
  have low : 2 * ((r : ℚ) * denominator) ≤ 2 * numerator + denominator := by exact_mod_cast low
  have high : 2 * (numerator : ℚ) ≤ 2 * (r * denominator) + denominator := by exact_mod_cast high
  constructor
  · rw [le_div_iff₀ below]
    linarith
  · rw [div_le_iff₀ below]
    linarith
  · intro isOdd
    have above : 2 * ((r : ℚ) * denominator) < 2 * numerator + denominator := by
      exact_mod_cast (odd isOdd).1
    have under : 2 * (numerator : ℚ) < 2 * (r * denominator) + denominator := by
      exact_mod_cast (odd isOdd).2
    rw [lt_div_iff₀ below, div_lt_iff₀ below]
    constructor <;> linarith

/-- Of two neighbours one is odd, so a half in between is not near to both. -/
theorem Nearest.le {m n : Nat} {x : ℚ} (near : Nearest m x) (near' : Nearest n x) : n ≤ m := by
  by_contra below
  have next : (m : ℚ) + 1 ≤ n := by exact_mod_cast Nat.lt_of_not_le below
  have exact : n = m + 1 := by
    have : (n : ℚ) ≤ m + 1 := by linarith [near.high, near'.low]
    exact Nat.le_antisymm (by exact_mod_cast this) (Nat.lt_of_not_le below)
  rcases Nat.mod_two_eq_zero_or_one n with even | isOdd
  · linarith [(near.odd (by omega)).2, near'.low]
  · linarith [(near'.odd isOdd).1, near.high]

/-- A quotient is rounded to every whole number that is nearest to it. -/
theorem Nearest.roundHalfEven_eq {numerator denominator n : Nat} (positive : 0 < denominator)
    (near : Nearest n (numerator / denominator))
    : roundHalfEven numerator denominator = n :=
  have rounded := nearest_roundHalfEven numerator positive
  Nat.le_antisymm (near.le rounded) (rounded.le near)

-----------------------------------------------------------------------------------------
-- Exponents
-----------------------------------------------------------------------------------------

/-- The number of significands as a power of two. -/
theorem cast_fractions (format : Format) : (format.fractions : ℚ) = 2 ^ format.fractionBits :=
  cast_one_shiftLeft _

theorem fractions_pos (format : Format) : 0 < format.fractions := by
  rw [fractions, Nat.one_shiftLeft]
  exact Nat.two_pow_pos _

theorem one_le_cast_fractions (format : Format) : (1 : ℚ) ≤ format.fractions := by
  exact_mod_cast format.fractions_pos

/-- A positive quotient has a significand of at most the full width at its exponent, and of the full width
where the exponent is not the least one. -/
structure IsExponent (format : Format) (x : ℚ) (exponent : Int) : Prop where
  least : format.leastExponent ≤ exponent
  small : x / 2 ^ exponent < 2 * format.fractions
  full : exponent = format.leastExponent ∨ (format.fractions : ℚ) ≤ x / 2 ^ exponent

/-- An exponent at which the significand has its full width is raised to the least one. -/
theorem IsExponent.max {x : ℚ} (positive : 0 < x) {exponent : Int}
    (full : (format.fractions : ℚ) ≤ x / 2 ^ exponent) (small : x / 2 ^ exponent < 2 * format.fractions)
    : format.IsExponent x (max exponent format.leastExponent) := by
  rcases Int.le_total format.leastExponent exponent with reached | below
  · rw [Int.max_eq_left reached]
    exact ⟨reached, small, Or.inr full⟩
  · rw [Int.max_eq_right below]
    refine ⟨Int.le_refl _, lt_of_le_of_lt ?_ small, Or.inl rfl⟩
    exact div_le_div_of_nonneg_left positive.le (by positivity)
      (zpow_le_zpow_right₀ (by norm_num) below)

/-- The difference of the logarithms tells a quotient up to a factor of two. -/
theorem ratio_log2 {numerator denominator : Nat} (positive : 0 < numerator) (positive' : 0 < denominator)
    : (2 : ℚ) ^ ((numerator.log2 : Int) - denominator.log2) < 2 * (numerator / denominator)
      ∧ (numerator : ℚ) / denominator < 2 * 2 ^ ((numerator.log2 : Int) - denominator.log2) := by
  have lowN : (2 : ℚ) ^ numerator.log2 ≤ numerator := by
    exact_mod_cast Nat.log2_self_le (Nat.ne_of_gt positive)
  have highN : (numerator : ℚ) < 2 ^ numerator.log2 * 2 := by
    exact_mod_cast Nat.lt_log2_self
  have lowD : (2 : ℚ) ^ denominator.log2 ≤ denominator := by
    exact_mod_cast Nat.log2_self_le (Nat.ne_of_gt positive')
  have highD : (denominator : ℚ) < 2 ^ denominator.log2 * 2 := by
    exact_mod_cast Nat.lt_log2_self
  have below : (0 : ℚ) < denominator := by exact_mod_cast positive'
  have unit : (0 : ℚ) < 2 ^ denominator.log2 := by positivity
  rw [zpow_sub₀ two_ne_zero, zpow_natCast, zpow_natCast]
  constructor
  · rw [div_lt_iff₀ unit, ← mul_div_assoc, div_mul_eq_mul_div, lt_div_iff₀ below]
    calc
      (2 : ℚ) ^ numerator.log2 * denominator ≤ numerator * denominator := by gcongr
      _ < numerator * (2 ^ denominator.log2 * 2) := by
        have : (0 : ℚ) < numerator := by exact_mod_cast positive
        gcongr
      _ = 2 * numerator * 2 ^ denominator.log2 := by ring
  · rw [div_lt_iff₀ below, ← mul_div_assoc, div_mul_eq_mul_div, lt_div_iff₀ unit]
    calc
      (numerator : ℚ) * 2 ^ denominator.log2 < 2 ^ numerator.log2 * 2 * 2 ^ denominator.log2 := by gcongr
      _ ≤ 2 ^ numerator.log2 * 2 * denominator := by gcongr
      _ = 2 * 2 ^ numerator.log2 * denominator := by ring

/-- The exponent that the logarithms tell is right, or one too large, which the scaled quotient shows. -/
theorem isExponent_exponentOf (format : Format) {numerator denominator : Nat}
    (positive : 0 < numerator) (positive' : 0 < denominator)
    : format.IsExponent (numerator / denominator) (format.exponentOf numerator denominator) := by
  obtain ⟨low, high⟩ := ratio_log2 positive positive'
  have quotient : (0 : ℚ) < numerator / denominator :=
    div_pos (by exact_mod_cast positive) (by exact_mod_cast positive')
  unfold exponentOf
  dsimp only
  generalize guessed : (numerator.log2 : Int) - denominator.log2 - format.fractionBits = guess
  obtain ⟨some, ratio⟩ := scaled_ratio numerator positive' guess
  have unit : (2 : ℚ) ^ ((numerator.log2 : Int) - denominator.log2) = format.fractions * 2 ^ guess := by
    rw [cast_fractions, ← zpow_natCast, ← zpow_add₀ two_ne_zero, ← guessed, add_sub_cancel]
  have power : (0 : ℚ) < 2 ^ guess := by positivity
  rw [unit] at low high
  have low : (format.fractions : ℚ) < 2 * (numerator / denominator / 2 ^ guess) := by
    rwa [← mul_div_assoc, lt_div_iff₀ power]
  have high : (numerator : ℚ) / denominator / 2 ^ guess < 2 * format.fractions := by
    rwa [div_lt_iff₀ power, mul_assoc]
  have floor
      : (scaled numerator denominator guess).1 / (scaled numerator denominator guess).2
          < format.fractions
        ↔ (numerator : ℚ) / denominator / 2 ^ guess < format.fractions := by
    rw [← ratio, Nat.div_lt_iff_lt_mul some, div_lt_iff₀ (by exact_mod_cast some)]
    exact_mod_cast Iff.rfl
  split
  · next short =>
      have short := floor.mp short
      refine IsExponent.max quotient ?_ ?_ <;> rw [div_two_zpow_pred] <;> linarith
  · next full => exact IsExponent.max quotient (not_lt.mp (fun short => full (floor.mpr short))) high

end Format

-----------------------------------------------------------------------------------------
-- Intervals
-----------------------------------------------------------------------------------------

/-- A number lies in an interval. -/
def Interval.Contains (interval : Interval) (x : ℚ) : Prop :=
  if interval.closed then
    (interval.low : ℚ) ≤ x * interval.scale ∧ x * interval.scale ≤ interval.high
  else (interval.low : ℚ) < x * interval.scale ∧ x * interval.scale < interval.high

/-- The one form of a finite number of a format. -/
structure Format.Canonical (format : Format) (significand : Nat) (exponent : Int) : Prop where
  small : significand < 2 * format.fractions
  least : format.leastExponent ≤ exponent
  full : exponent = format.leastExponent ∨ format.fractions ≤ significand

/-- How far a number below another one may be that rounds to it, in units of its significand. -/
def Format.gap (format : Format) (significand : Nat) (exponent : Int) : ℚ :=
  if significand = format.fractions ∧ format.leastExponent < exponent then 1 / 4 else 1 / 2

/-- The measure of a number is a quarter of a unit of its significand. -/
theorem cast_quarter (exponent : Int)
    : ((1 <<< (exponent - 2).toNat : Nat) : ℚ)
      = (2 : ℚ) ^ exponent / (4 : ℚ) * ((1 <<< (2 - exponent).toNat : Nat) : ℚ) := by
  have power := zpow_eq_div 2 (exponent - 2)
  rw [show -(exponent - 2) = 2 - exponent by omega, Nat.pow_eq, Nat.pow_eq, Nat.cast_pow,
    Nat.cast_pow] at power
  have four : (2 : ℚ) ^ exponent / 4 = 2 ^ (exponent - 2) := by
    rw [zpow_sub₀ two_ne_zero]
    norm_num
  rw [cast_one_shiftLeft, cast_one_shiftLeft, four]
  exact (div_eq_iff (by positivity)).mp power.symm

/-- The center of the interval of a number is the number. -/
theorem Interval.center_ofFinite (format : Format) (significand : Nat) (exponent : Int)
    : ((Interval.ofFinite format significand exponent).center : ℚ)
        / (Interval.ofFinite format significand exponent).scale
      = significand * 2 ^ exponent := by
  have scale : (0 : ℚ) < ((1 <<< (2 - exponent).toNat : Nat) : ℚ) := by
    rw [cast_one_shiftLeft]
    positivity
  unfold ofFinite
  dsimp only
  rw [Nat.cast_mul, cast_quarter, div_eq_iff scale.ne']
  push_cast
  ring

/-- The lower end of an interval in quarters of a unit. -/
theorem Format.cast_low (format : Format) {significand : Nat} (positive : 0 < significand) (exponent : Int)
    : ((4 * significand
          - if significand = format.fractions ∧ format.leastExponent < exponent then 1 else 2 : Nat) : ℚ)
      = 4 * (significand - format.gap significand exponent) := by
  unfold Format.gap
  rw [Nat.cast_sub (by split <;> omega)]
  split <;> push_cast <;> ring

/-- The interval of a number reaches up to half a unit from its significand, or down to a quarter of one,
and its ends belong to it where the significand is even.
-/
theorem Interval.contains_ofFinite_iff {format : Format} {significand : Nat} (positive : 0 < significand)
    (exponent : Int) (x : ℚ)
    : (Interval.ofFinite format significand exponent).Contains x
      ↔ if significand % 2 = 0 then
          significand - format.gap significand exponent ≤ x / 2 ^ exponent
            ∧ x / 2 ^ exponent ≤ significand + 1 / 2
        else
          significand - format.gap significand exponent < x / 2 ^ exponent
            ∧ x / 2 ^ exponent < significand + 1 / 2 := by
  have scale : (0 : ℚ) < ((1 <<< (2 - exponent).toNat : Nat) : ℚ) := by
    rw [cast_one_shiftLeft]
    positivity
  have high : ((4 * significand + 2 : Nat) : ℚ) = 4 * (significand + 1 / 2) := by
    push_cast
    ring
  unfold Contains ofFinite
  simp only [decide_eq_true_eq, Nat.cast_mul _ (1 <<< (exponent - 2).toNat),
    Format.cast_low format positive, high, cast_quarter]
  generalize ((1 <<< (2 - exponent).toNat : Nat) : ℚ) = scale' at *
  have power : (0 : ℚ) < 2 ^ exponent := by positivity
  have move (left : ℚ)
      : (4 : ℚ) * left * ((2 : ℚ) ^ exponent / (4 : ℚ) * scale') = left * 2 ^ exponent * scale' := by
    ring
  simp only [move, mul_le_mul_iff_left₀ scale, mul_lt_mul_iff_left₀ scale,
    ← le_div_iff₀ power, ← div_le_iff₀ power, ← lt_div_iff₀ power, ← div_lt_iff₀ power]

/-- A number lies in its own interval. -/
theorem Interval.contains_self {format : Format} {significand : Nat} (positive : 0 < significand)
    (exponent : Int)
    : (Interval.ofFinite format significand exponent).Contains (significand * 2 ^ exponent) := by
  have gap : 0 < format.gap significand exponent := by
    unfold Format.gap
    split <;> norm_num
  rw [contains_ofFinite_iff positive, mul_div_cancel_right₀ _ (by positivity)]
  split <;> constructor <;> linarith

-----------------------------------------------------------------------------------------
-- Rounding
-----------------------------------------------------------------------------------------

namespace Format

variable {format : Format}

/-- The word of a finite number without its sign. -/
def word (format : Format) (significand : Nat) (exponent : Int) : Nat :=
  (exponent - format.leastExponent).toNat * format.fractions + significand

/-- The form of a number whose word is below that of the infinity. -/
structure Finite (format : Format) (significand : Nat) (exponent : Int) : Prop
    extends format.Canonical significand exponent where
  bounded : format.word significand exponent < format.allOnes * format.fractions

/-- A number, in units of a significand, is as near to it as its interval reaches. -/
structure Near (format : Format) (significand : Nat) (exponent : Int) (x : ℚ) : Prop where
  low : significand - format.gap significand exponent ≤ x
  high : x ≤ significand + 1 / 2
  odd
    : significand % 2 = 1
      → significand - format.gap significand exponent < x ∧ x < significand + 1 / 2

theorem near_of_contains {significand : Nat} {exponent : Int} {x : ℚ} (positive : 0 < significand)
    (inside : (Interval.ofFinite format significand exponent).Contains x)
    : format.Near significand exponent (x / 2 ^ exponent) := by
  rw [Interval.contains_ofFinite_iff positive] at inside
  split at inside
  · next even => exact ⟨inside.1, inside.2, fun odd => by omega⟩
  · exact ⟨inside.1.le, inside.2.le, fun _ => inside⟩

theorem gap_le (format : Format) (significand : Nat) (exponent : Int)
    : format.gap significand exponent ≤ 1 / 2 := by
  unfold gap
  split <;> norm_num

theorem Near.pos {significand : Nat} {exponent : Int} {x : ℚ} (near : format.Near significand exponent x)
    (positive : 0 < significand)
    : 0 < x := by
  have : (1 : ℚ) ≤ significand := by exact_mod_cast positive
  linarith [near.low, format.gap_le significand exponent]

theorem Near.nearest {significand : Nat} {exponent : Int} {x : ℚ}
    (near : format.Near significand exponent x)
    : Nearest significand x := by
  have gap := format.gap_le significand exponent
  refine ⟨by linarith [near.low], near.high, fun isOdd => ?_⟩
  exact ⟨by linarith [(near.odd isOdd).1], (near.odd isOdd).2⟩

/-- A number in the interval of a canonical one has no greater exponent. -/
theorem Canonical.exponent_le {significand : Nat} {exponent other : Int} {x : ℚ}
    (canonical : format.Canonical significand exponent)
    (near : format.Near significand exponent (x / 2 ^ exponent)) (isExponent : format.IsExponent x other)
    : other ≤ exponent := by
  by_contra above
  obtain ⟨n, rfl⟩ : ∃ n : Nat, other = exponent + (n + 1 : Nat) :=
    ⟨(other - exponent).toNat - 1, by omega⟩
  have full := isExponent.full.resolve_left (by have := canonical.least; omega)
  have small : (significand : ℚ) + 1 ≤ 2 * format.fractions := by exact_mod_cast canonical.small
  have some := format.one_le_cast_fractions
  have drop : x / 2 ^ (exponent + (n + 1 : Nat)) * 2 ^ (n + 1) = x / 2 ^ exponent := by
    rw [zpow_add₀ two_ne_zero, zpow_natCast]
    field_simp
  have room : (1 : ℚ) ≤ 2 ^ n := one_le_pow₀ (by norm_num)
  rw [pow_succ] at drop
  nlinarith [near.high]

/-- A number in the interval of a canonical one has a smaller exponent only below a power of two that is the
canonical one, and then the exponent before it.
-/
theorem Canonical.carries_of_lt {significand : Nat} {exponent other : Int} {x : ℚ}
    (canonical : format.Canonical significand exponent) (positive : 0 < significand)
    (near : format.Near significand exponent (x / 2 ^ exponent)) (isExponent : format.IsExponent x other)
    (before : other < exponent)
    : other = exponent - 1 ∧ significand = format.fractions ∧ x / 2 ^ exponent < format.fractions := by
  obtain ⟨n, rfl⟩ : ∃ n : Nat, other = exponent - (n + 1 : Nat) :=
    ⟨(exponent - other).toNat - 1, by omega⟩
  have positive := near.pos positive
  have some := format.one_le_cast_fractions
  have least := isExponent.least
  have full : format.fractions ≤ significand := canonical.full.resolve_left (by omega)
  have less : 2 ^ n * 2 * (x / 2 ^ exponent) < 2 * format.fractions := by
    have less := isExponent.small
    rwa [zpow_sub₀ two_ne_zero, zpow_natCast, div_div_eq_mul_div, mul_div_right_comm, mul_comm,
      pow_succ] at less
  have room : (1 : ℚ) ≤ 2 ^ n := one_le_pow₀ (by norm_num)
  have under : x / 2 ^ exponent < format.fractions := by nlinarith
  have exact : significand = format.fractions := by
    by_contra other
    have : (format.fractions : ℚ) + 1 ≤ significand := by
      exact_mod_cast Nat.lt_of_le_of_ne full (Ne.symm other)
    linarith [near.low, format.gap_le significand exponent]
  refine ⟨?_, exact, under⟩
  -- Two exponents below, the number would be less than half of the power of two.
  have narrow : format.gap significand exponent = 1 / 4 := if_pos ⟨exact, by omega⟩
  have low := near.low
  rw [narrow, exact] at low
  cases n with
  | zero => rfl
  | succ n =>
      have more : (1 : ℚ) ≤ 2 ^ n := one_le_pow₀ (by norm_num)
      rw [pow_succ] at less
      nlinarith

/-- At its exponent a number that is near to a canonical one has the rank and the significand of that. -/
theorem Canonical.rounded_eq {significand : Nat} {exponent : Int}
    (canonical : format.Canonical significand exponent) (some : 0 < significand)
    {numerator denominator : Nat} (positive : 0 < denominator)
    (near : format.Near significand exponent (numerator / denominator / 2 ^ exponent)) {other : Int}
    (isExponent : format.IsExponent (numerator / denominator) other)
    : (other - format.leastExponent).toNat * format.fractions
        + roundHalfEven (scaled numerator denominator other).1 (scaled numerator denominator other).2
      = format.word significand exponent := by
  obtain ⟨positive', ratio⟩ := scaled_ratio numerator positive other
  rcases Int.lt_or_eq_of_le (canonical.exponent_le near isExponent) with before | rfl
  · -- Twice the significand is the significand of the next exponent.
    have least := isExponent.least
    obtain ⟨rfl, rfl, under⟩ := canonical.carries_of_lt some near isExponent before
    have quarter : format.gap format.fractions exponent = 1 / 4 := if_pos ⟨rfl, by omega⟩
    have low := near.low
    rw [quarter] at low
    rw [div_two_zpow_pred] at ratio
    have twice : Nearest (2 * format.fractions) (2 * (numerator / denominator / 2 ^ exponent)) := by
      refine ⟨?_, ?_, fun isOdd => by omega⟩ <;> push_cast <;> linarith
    rw [← ratio] at twice
    have rank : (exponent - format.leastExponent).toNat
        = (exponent - 1 - format.leastExponent).toNat + 1 := by
      omega
    rw [word, twice.roundHalfEven_eq positive', rank]
    ring
  · have nearest := near.nearest
    rw [← ratio] at nearest
    rw [word, nearest.roundHalfEven_eq positive']

/-- Every quotient in the interval of a finite number is rounded to the number. -/
theorem Finite.round_eq {significand : Nat} {exponent : Int}
    (finite : format.Finite significand exponent) (some : 0 < significand) (negative : Bool)
    {numerator denominator : Nat} (positive : 0 < denominator)
    (inside : (Interval.ofFinite format significand exponent).Contains (numerator / denominator))
    : format.round negative numerator denominator
      = (if negative then format.signBit else 0) + format.word significand exponent := by
  have near := near_of_contains some inside
  have above : numerator ≠ 0 := by
    rintro rfl
    have quotient := near.pos some
    rw [Nat.cast_zero, zero_div, zero_div] at quotient
    exact lt_irrefl 0 quotient
  have isExponent := isExponent_exponentOf format (Nat.pos_of_ne_zero above) positive
  unfold round
  dsimp only
  rw [if_neg above, finite.rounded_eq some positive near isExponent,
    Nat.min_eq_left (Nat.le_of_lt finite.bounded)]

-----------------------------------------------------------------------------------------
-- Nearest numbers
-----------------------------------------------------------------------------------------

/-- The least significand is one. -/
theorem IsExponent.one_le {x : ℚ} {exponent : Int} (isExponent : format.IsExponent x exponent)
    (least : (2 : ℚ) ^ format.leastExponent ≤ x)
    : 1 ≤ x / 2 ^ exponent := by
  rcases isExponent.full with rfl | full
  · rwa [le_div_iff₀ (by positivity), one_mul]
  · exact format.one_le_cast_fractions.trans full

/-- A nearest significand makes a canonical number, in whose interval the number lies. -/
theorem IsExponent.contains_nearest {x : ℚ} {exponent : Int} (isExponent : format.IsExponent x exponent)
    {n : Nat} (positive : 0 < n) (near : Nearest n (x / 2 ^ exponent)) (wide : n < 2 * format.fractions)
    : format.Canonical n exponent ∧ (Interval.ofFinite format n exponent).Contains x := by
  have canonical : format.Canonical n exponent := by
    refine ⟨wide, isExponent.least, isExponent.full.imp_right (fun full => ?_)⟩
    have : (format.fractions : ℚ) < n + 1 := by linarith [near.high]
    exact Nat.le_of_lt_succ (by exact_mod_cast this)
  refine ⟨canonical, (Interval.contains_ofFinite_iff positive _ _).mpr ?_⟩
  by_cases narrow : n = format.fractions ∧ format.leastExponent < exponent
  · -- A power of two with its full width does not lie above the number.
    have full := isExponent.full.resolve_left (by omega)
    have gap : format.gap n exponent = 1 / 4 := if_pos narrow
    rw [← narrow.1] at full
    rw [gap]
    split
    · exact ⟨by linarith, near.high⟩
    · exact ⟨by linarith, (near.odd (by omega)).2⟩
  · have gap : format.gap n exponent = 1 / 2 := if_neg narrow
    rw [gap]
    split
    · exact ⟨near.low, near.high⟩
    · exact near.odd (by omega)

/-- A significand that is rounded up to the next power of two makes that a canonical number, in whose
interval the number lies.
-/
theorem IsExponent.contains_carry {x : ℚ} {exponent : Int} (isExponent : format.IsExponent x exponent)
    (even : format.fractions % 2 = 0) {n : Nat} (near : Nearest n (x / 2 ^ exponent))
    (beyond : 2 * format.fractions ≤ n)
    : format.Canonical format.fractions (exponent + 1)
      ∧ (Interval.ofFinite format format.fractions (exponent + 1)).Contains x := by
  have least := isExponent.least
  have narrow : format.gap format.fractions (exponent + 1) = 1 / 4 := if_pos ⟨rfl, by omega⟩
  have beyond : 2 * (format.fractions : ℚ) ≤ n := by exact_mod_cast beyond
  have half : x / 2 ^ (exponent + 1) = x / 2 ^ exponent / 2 := by
    rw [zpow_add_one₀ two_ne_zero, div_div]
  have some := format.fractions_pos
  refine ⟨⟨by omega, by omega, Or.inr (Nat.le_refl _)⟩,
    (Interval.contains_ofFinite_iff some _ _).mpr ?_⟩
  rw [if_pos even, narrow, half]
  constructor
  · linarith [near.low]
  · linarith [isExponent.small]

/-- A quotient that is not too small lies in the interval of a number. -/
theorem exists_contains (format : Format) (even : format.fractions % 2 = 0) {numerator denominator : Nat}
    (positive : 0 < numerator) (positive' : 0 < denominator)
    (least : (2 : ℚ) ^ format.leastExponent ≤ numerator / denominator)
    : ∃ significand exponent,
        format.Canonical significand exponent
        ∧ 0 < significand
        ∧ (Interval.ofFinite format significand exponent).Contains (numerator / denominator) := by
  have isExponent := isExponent_exponentOf format positive positive'
  generalize format.exponentOf numerator denominator = exponent at isExponent
  obtain ⟨some, ratio⟩ := scaled_ratio numerator positive' exponent
  have near := nearest_roundHalfEven (scaled numerator denominator exponent).1 some
  rw [ratio] at near
  generalize roundHalfEven (scaled numerator denominator exponent).1
    (scaled numerator denominator exponent).2 = n at near
  rcases Nat.lt_or_ge n (2 * format.fractions) with wide | beyond
  · have positive : 0 < n := by
      have : (0 : ℚ) < n := by linarith [near.high, isExponent.one_le least]
      exact_mod_cast this
    obtain ⟨canonical, inside⟩ := isExponent.contains_nearest positive near wide
    exact ⟨n, exponent, canonical, positive, inside⟩
  · obtain ⟨canonical, inside⟩ := isExponent.contains_carry even near beyond
    exact ⟨format.fractions, exponent + 1, canonical, format.fractions_pos, inside⟩

end Format

end EntityStore.Number
