import EntityStore.Proofs.Number.Rounding
import EntityStore.Proofs.Number.Shortest

/-! Rounding to 64 bits on the way to 32 bits.
The ends of the interval of a 32 bit number are 64 bit numbers, and much coarser ones than those next to
them. So a decimal in the interval is rounded to a 64 bit number in the interval again, as long as it has so
few digits that it cannot come close to an end without being the end.
-/

namespace EntityStore.Number

-----------------------------------------------------------------------------------------
-- Points of a grid
-----------------------------------------------------------------------------------------

/-- A point of a coarse grid is a point of a finer one. -/
theorem mul_zpow_eq {fine coarse : Int} (finer : fine ≤ coarse) (point : Nat)
    : (point : ℚ) * 2 ^ coarse = (point * 2 ^ (coarse - fine).toNat : Nat) * 2 ^ fine := by
  obtain ⟨n, rfl⟩ := Int.le.dest finer
  rw [show (fine + n - fine).toNat = n by omega, zpow_add₀ two_ne_zero, zpow_natCast]
  push_cast
  ring

/-- A number that is not below a point of a coarse grid is not rounded below it. -/
theorem le_of_grid {fine coarse : Int} (finer : fine ≤ coarse) {point near : Nat} {x : ℚ}
    (below : (point : ℚ) * 2 ^ coarse ≤ x) (high : x / 2 ^ fine ≤ near + 1 / 2)
    : (point : ℚ) * 2 ^ coarse ≤ near * 2 ^ fine := by
  have unit : (0 : ℚ) < 2 ^ fine := by positivity
  rw [mul_zpow_eq finer] at below ⊢
  have bound : ((point * 2 ^ (coarse - fine).toNat : Nat) : ℚ) < near + 1 := by
    linarith [(le_div_iff₀ unit).mpr below]
  have whole : point * 2 ^ (coarse - fine).toNat ≤ near := Nat.le_of_lt_succ (by exact_mod_cast bound)
  exact mul_le_mul_of_nonneg_right (by exact_mod_cast whole) unit.le

/-- A number that is not above a point of a coarse grid is not rounded above it. -/
theorem ge_of_grid {fine coarse : Int} (finer : fine ≤ coarse) {point near : Nat} {x : ℚ}
    (above : x ≤ (point : ℚ) * 2 ^ coarse) (low : near - 1 / 2 ≤ x / 2 ^ fine)
    : near * 2 ^ fine ≤ (point : ℚ) * 2 ^ coarse := by
  have unit : (0 : ℚ) < 2 ^ fine := by positivity
  rw [mul_zpow_eq finer] at above ⊢
  have bound : (near : ℚ) < (point * 2 ^ (coarse - fine).toNat : Nat) + 1 := by
    linarith [(div_le_iff₀ unit).mpr above]
  have whole : near ≤ point * 2 ^ (coarse - fine).toNat := Nat.le_of_lt_succ (by exact_mod_cast bound)
  exact mul_le_mul_of_nonneg_right (by exact_mod_cast whole) unit.le

/-- Different whole numbers are at least one apart. -/
theorem one_le_abs_sub {a b : Nat} (other : a ≠ b) : (1 : ℚ) ≤ |(a : ℚ) - b| := by
  have apart : (1 : ℤ) ≤ |(a : ℤ) - b| := Int.one_le_abs (by omega)
  exact_mod_cast apart

/-- A decimal as a fraction with a power of five below it. -/
theorem Decimal.value_mul_pow_five (d : Decimal)
    : d.value * 5 ^ (-d.exponent).toNat = (d.digits * 5 ^ d.exponent.toNat : Nat) * 2 ^ d.exponent := by
  have ten : (10 : ℚ) ^ d.exponent = 5 ^ d.exponent * 2 ^ d.exponent := by
    rw [← mul_zpow]
    norm_num
  have five := zpow_eq_div 5 d.exponent
  rw [eq_div_iff (by simp), Nat.pow_eq, Nat.pow_eq] at five
  push_cast at five ⊢
  rw [value, ten, ← five]
  ring

/-- A decimal that is no point of a grid is at least one unit away from it, where a unit is the finer one of
both powers of two, divided by the power of five of the decimal.
-/
theorem Decimal.unit_le_of_ne (d : Decimal) {point : Nat} {exponent : Int}
    (other : d.value ≠ point * 2 ^ exponent)
    : (2 : ℚ) ^ min exponent d.exponent
      ≤ |d.value - point * 2 ^ exponent| * 5 ^ (-d.exponent).toNat := by
  have value := d.value_mul_pow_five
  have some : (0 : ℚ) < 5 ^ (-d.exponent).toNat := by positivity
  have fine := min_le_left exponent d.exponent
  have fine' := min_le_right exponent d.exponent
  generalize min exponent d.exponent = unit at *
  have pointValue : (point : ℚ) * 2 ^ exponent * 5 ^ (-d.exponent).toNat
      = ((point * 5 ^ (-d.exponent).toNat) * 2 ^ (exponent - unit).toNat : Nat) * 2 ^ unit := by
    rw [mul_zpow_eq fine]
    push_cast
    ring
  rw [mul_zpow_eq fine'] at value
  have ne : (d.digits * 5 ^ d.exponent.toNat) * 2 ^ (d.exponent - unit).toNat
      ≠ (point * 5 ^ (-d.exponent).toNat) * 2 ^ (exponent - unit).toNat := by
    intro same
    rw [same, ← pointValue] at value
    exact other (mul_right_cancel₀ some.ne' value)
  rw [← abs_of_pos some, ← abs_mul, sub_mul, value, pointValue, ← sub_mul, abs_mul,
    abs_of_pos (show (0 : ℚ) < 2 ^ unit by positivity)]
  exact le_mul_of_one_le_left (by positivity) (one_le_abs_sub ne)

/-- A decimal with few digits is a point of a grid, or far from it. -/
theorem apart_of_ne (d : Decimal) {point bound : Nat} {exponent : Int}
    (other : d.value ≠ point * 2 ^ exponent) (few : d.digits * 5 ^ d.exponent.toNat ≤ 2 ^ 51)
    (least : -12 ≤ d.exponent) (small : bound < 2 ^ 25)
    (below : (bound : ℚ) * 2 ^ exponent < 4 * d.value)
    : (bound : ℚ) * 2 ^ exponent / 2 ^ 53 < |d.value - point * 2 ^ exponent| := by
  have far := d.unit_le_of_ne other
  have some : (0 : ℚ) < 5 ^ (-d.exponent).toNat := by positivity
  refine lt_of_mul_lt_mul_right (lt_of_lt_of_le ?_ far) some.le
  rcases min_choice exponent d.exponent with same | same
  · have fives : (5 : ℚ) ^ (-d.exponent).toNat ≤ 5 ^ 12 :=
      pow_le_pow_right₀ (by norm_num) (by omega)
    have small : (bound : ℚ) ≤ 2 ^ 25 := by exact_mod_cast small.le
    have product : (bound : ℚ) * 5 ^ (-d.exponent).toNat / 2 ^ 53 < 1 := by
      rw [div_lt_one (by norm_num)]
      calc
        (bound : ℚ) * 5 ^ (-d.exponent).toNat ≤ 2 ^ 25 * 5 ^ 12 := by gcongr
        _ < 2 ^ 53 := by norm_num
    rw [same]
    calc
      (bound : ℚ) * 2 ^ exponent / 2 ^ 53 * 5 ^ (-d.exponent).toNat
        = bound * 5 ^ (-d.exponent).toNat / 2 ^ 53 * 2 ^ exponent := by ring
      _ < 1 * 2 ^ exponent := by gcongr
      _ = 2 ^ exponent := one_mul _
  · have short : ((d.digits * 5 ^ d.exponent.toNat : Nat) : ℚ) ≤ 2 ^ 51 := by exact_mod_cast few
    rw [same]
    calc
      (bound : ℚ) * 2 ^ exponent / 2 ^ 53 * 5 ^ (-d.exponent).toNat
        < 4 * d.value / 2 ^ 53 * 5 ^ (-d.exponent).toNat := by gcongr
      _ = 4 / 2 ^ 53 * (d.value * 5 ^ (-d.exponent).toNat) := by ring
      _ ≤ 4 / 2 ^ 53 * (2 ^ 51 * 2 ^ d.exponent) := by
        rw [d.value_mul_pow_five]
        gcongr
      _ = 2 ^ d.exponent := by ring

/-- A decimal with few digits is rounded to no point of a grid but itself. -/
theorem ne_of_near (d : Decimal) {point bound near : Nat} {exponent fine : Int}
    (other : d.value ≠ point * 2 ^ exponent) (few : d.digits * 5 ^ d.exponent.toNat ≤ 2 ^ 51)
    (least : -12 ≤ d.exponent) (small : bound < 2 ^ 25)
    (below : (bound : ℚ) * 2 ^ exponent < 4 * d.value) (inside : point ≤ bound) (wide : 2 ^ 52 ≤ near)
    (nearest : Format.Nearest near (d.value / 2 ^ fine))
    : (near : ℚ) * 2 ^ fine ≠ point * 2 ^ exponent := by
  intro same
  have apart := apart_of_ne d other few least small below
  have unit : (0 : ℚ) < 2 ^ fine := by positivity
  have wide : (2 : ℚ) ^ 52 ≤ near := by exact_mod_cast wide
  have inside : (point : ℚ) * 2 ^ exponent ≤ bound * 2 ^ exponent := by gcongr
  have half : |d.value - point * 2 ^ exponent| ≤ 2 ^ fine / 2 := by
    rw [← same, abs_le]
    have low := (le_div_iff₀ unit).mp nearest.low
    have high := (div_le_iff₀ unit).mp nearest.high
    constructor <;> linarith
  have room : (2 : ℚ) ^ 52 * 2 ^ fine ≤ near * 2 ^ fine := by gcongr
  linarith

/-- A number in the interval of a 32 bit number is well inside the range of 64 bits, and the unit there is
much finer.
-/
theorem wide_of_contains {x : ℚ} {significand near : Nat} {exponent fine : Int}
    (positive : 0 < significand) (canonical : Format.single.Canonical significand exponent)
    (single : Format.single.Near significand exponent (x / 2 ^ exponent))
    (canonical' : Format.double.Canonical near fine) (nearest : Format.Nearest near (x / 2 ^ fine))
    : 2 ^ 52 ≤ near ∧ fine + 2 ≤ exponent := by
  have gap := Format.single.gap_le significand exponent
  have unit : (0 : ℚ) < 2 ^ exponent := by positivity
  have unit' : (0 : ℚ) < 2 ^ fine := by positivity
  have one : (1 : ℚ) ≤ significand := by exact_mod_cast positive
  have small : (significand : ℚ) + 1 ≤ 2 ^ 24 := by
    have : significand + 1 ≤ 2 ^ 24 := canonical.small
    exact_mod_cast this
  have above : 1 / 2 * 2 ^ exponent ≤ x := (le_div_iff₀ unit).mp (by linarith [single.low])
  have under : x < 2 ^ 24 * 2 ^ exponent := (div_lt_iff₀ unit).mp (by linarith [single.high])
  have wide : 2 ^ 52 ≤ near := by
    by_contra short
    have leastExponent : fine = -1074 := canonical'.full.resolve_right short
    have short : (near : ℚ) + 1 ≤ 2 ^ 52 := by exact_mod_cast Nat.succ_le_of_lt (Nat.not_le.mp short)
    have tiny : x ≤ 2 ^ 52 * 2 ^ fine := (div_le_iff₀ unit').mp (by linarith [nearest.high])
    have large : (2 : ℚ) ^ (fine + (55 : Nat)) ≤ 2 ^ exponent := by
      have least : -149 ≤ exponent := canonical.least
      exact zpow_le_zpow_right₀ (by norm_num) (by omega)
    rw [zpow_add₀ two_ne_zero, zpow_natCast] at large
    linarith
  have full : (2 : ℚ) ^ 52 ≤ near := by exact_mod_cast wide
  have room : (2 : ℚ) ^ 51 * 2 ^ fine ≤ x := (le_div_iff₀ unit').mp (by linarith [nearest.low])
  have power : (2 : ℚ) ^ (fine + (2 : Nat)) < 2 ^ exponent := by
    rw [zpow_add₀ two_ne_zero, zpow_natCast]
    linarith
  exact ⟨wide, ((zpow_lt_zpow_iff_right₀ (by norm_num)).mp power).le⟩

/-- The 64 bit number next to a number does not lie outside of an interval, with its ends, that the number
lies in.
-/
theorem within_of_near {x : ℚ} {significand near : Nat} {exponent fine : Int} (positive : 0 < significand)
    (finer : fine + 2 ≤ exponent) (nearest : Format.Nearest near (x / 2 ^ fine))
    (inside : significand - Format.single.gap significand exponent ≤ x / 2 ^ exponent
      ∧ x / 2 ^ exponent ≤ significand + 1 / 2)
    : significand - Format.single.gap significand exponent ≤ near * 2 ^ fine / 2 ^ exponent
      ∧ near * 2 ^ fine / 2 ^ exponent ≤ (significand : ℚ) + 1 / 2 := by
  have unit : (0 : ℚ) < 2 ^ exponent := by positivity
  have quarter : (2 : ℚ) ^ (exponent - 2) = 2 ^ exponent / 4 := by
    rw [zpow_sub₀ two_ne_zero]
    norm_num
  have lowest := Format.cast_low .single positive exponent
  have highest : ((4 * significand + 2 : Nat) : ℚ) = 4 * (significand + 1 / 2) := by
    push_cast
    ring
  rw [le_div_iff₀ unit, div_le_iff₀ unit] at inside
  have below := le_of_grid (show fine ≤ exponent - 2 by omega)
    (by rw [lowest, quarter]; linarith [inside.1]) nearest.high
  have above := ge_of_grid (show fine ≤ exponent - 2 by omega)
    (by rw [highest, quarter]; linarith [inside.2]) nearest.low
  rw [lowest, quarter] at below
  rw [highest, quarter] at above
  rw [le_div_iff₀ unit, div_le_iff₀ unit]
  constructor <;> linarith

/-- The 64 bit number next to a decimal with few digits does not lie on an end of an interval, without its
ends, that the decimal lies in.
-/
theorem off_ends_of_near (d : Decimal) {significand near : Nat} {exponent fine : Int}
    (positive : 0 < significand) (small : significand < 2 ^ 24)
    (few : d.digits * 5 ^ d.exponent.toNat ≤ 2 ^ 51) (least : -12 ≤ d.exponent) (wide : 2 ^ 52 ≤ near)
    (nearest : Format.Nearest near (d.value / 2 ^ fine))
    (inside : significand - 1 / 2 < d.value / 2 ^ exponent
      ∧ d.value / 2 ^ exponent < (significand : ℚ) + 1 / 2)
    : near * 2 ^ fine / 2 ^ exponent ≠ (significand : ℚ) - 1 / 2
      ∧ near * 2 ^ fine / 2 ^ exponent ≠ (significand : ℚ) + 1 / 2 := by
  have unit : (0 : ℚ) < 2 ^ exponent := by positivity
  have one : (1 : ℚ) ≤ significand := by exact_mod_cast positive
  have half : (2 : ℚ) ^ (exponent - 1) = 2 ^ exponent / 2 := by
    rw [zpow_sub₀ two_ne_zero]
    norm_num
  have lowest : ((2 * significand - 1 : Nat) : ℚ) * 2 ^ (exponent - 1)
      = (significand - 1 / 2) * 2 ^ exponent := by
    rw [half, Nat.cast_sub (by omega)]
    push_cast
    ring
  have highest : ((2 * significand + 1 : Nat) : ℚ) * 2 ^ (exponent - 1)
      = (significand + 1 / 2) * 2 ^ exponent := by
    rw [half]
    push_cast
    ring
  rw [lt_div_iff₀ unit, div_lt_iff₀ unit] at inside
  have bound : ((2 * significand + 1 : Nat) : ℚ) * 2 ^ (exponent - 1) < 4 * d.value := by
    have : (2 : ℚ) ^ exponent ≤ significand * 2 ^ exponent := le_mul_of_one_le_left unit.le one
    rw [highest]
    linarith [inside.1]
  have offLow : d.value ≠ ((2 * significand - 1 : Nat) : ℚ) * 2 ^ (exponent - 1) := by
    rw [lowest]
    exact inside.1.ne'
  have offHigh : d.value ≠ ((2 * significand + 1 : Nat) : ℚ) * 2 ^ (exponent - 1) := by
    rw [highest]
    exact inside.2.ne
  have below := ne_of_near d offLow few least (by omega) bound (by omega) wide nearest
  have above := ne_of_near d offHigh few least (by omega) bound (by omega) wide nearest
  rw [lowest] at below
  rw [highest] at above
  rw [Ne, div_eq_iff unit.ne', Ne, div_eq_iff unit.ne']
  exact ⟨below, above⟩

/-- The 64 bit number that a decimal with few digits is rounded to lies in each interval of a 32 bit number
that the decimal lies in.
Witness: the ends of the interval are 64 bit numbers themselves, so rounding does not step over them, and
where they do not belong to the interval the decimal is too far from them to be rounded to them.
-/
theorem contains_of_near (d : Decimal) {significand near : Nat} {exponent fine : Int}
    (positive : 0 < significand) (canonical : Format.single.Canonical significand exponent)
    (inside : (Interval.ofFinite .single significand exponent).Contains d.value)
    (few : d.digits * 5 ^ d.exponent.toNat ≤ 2 ^ 51) (least : -12 ≤ d.exponent)
    (positive' : 0 < near) (canonical' : Format.double.Canonical near fine)
    (inside' : (Interval.ofFinite .double near fine).Contains d.value)
    : (Interval.ofFinite .single significand exponent).Contains (near * 2 ^ fine) := by
  have single := Format.near_of_contains positive inside
  have nearest := (Format.near_of_contains positive' inside').nearest
  obtain ⟨wide, finer⟩ := wide_of_contains positive canonical single canonical' nearest
  have within := within_of_near positive finer nearest ⟨single.low, single.high⟩
  rw [Interval.contains_ofFinite_iff positive] at inside ⊢
  split
  · exact within
  · next odd =>
      have gap : Format.single.gap significand exponent = 1 / 2 := by
        refine if_neg (fun narrow => odd ?_)
        rw [narrow.1]
        rfl
      rw [if_neg odd, gap] at inside
      rw [gap] at within ⊢
      have off := off_ends_of_near d positive canonical.small few least wide nearest inside
      exact ⟨lt_of_le_of_ne within.1 off.1.symm, lt_of_le_of_ne within.2 off.2⟩

end EntityStore.Number
