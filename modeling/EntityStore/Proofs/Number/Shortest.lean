import EntityStore.Proofs.Number.Rounding

/-! The shortest decimal of a number lies in its interval.
A hit on a grid lies in the interval, and the last grid is so fine that the number below the center does.
The grids start at the leading digit, so the digits of a number that is not zero are not zero.
-/

namespace EntityStore.Number

-----------------------------------------------------------------------------------------
-- Shortest digits
-----------------------------------------------------------------------------------------

namespace Interval

/-- The interval of a positive number, measured in some unit. -/
structure Positive (interval : Interval) : Prop where
  low : 0 < interval.low
  center : 0 < interval.center
  scale : 0 < interval.scale

variable {interval : Interval}

theorem positive_ofFinite (format : Format) {significand : Nat} (positive : significand ≠ 0)
    (exponent : Int)
    : (ofFinite format significand exponent).Positive := by
  have unit (n : Nat) : 0 < 1 <<< n := by
    rw [Nat.one_shiftLeft]
    exact Nat.two_pow_pos n
  refine ⟨Nat.mul_pos ?_ (unit _), Nat.mul_pos (by omega) (unit _), unit _⟩
  split <;> omega

theorem Positive.onGrid (positive : interval.Positive) (exponent : Int)
    : (interval.onGrid exponent).Positive := by
  have up (n : Nat) : 0 < Nat.pow 10 n := Nat.pow_pos (by decide)
  exact ⟨Nat.mul_pos positive.low (up _), Nat.mul_pos positive.center (up _),
    Nat.mul_pos positive.scale (up _)⟩

/-- Zero does not lie in the interval of a positive number. -/
theorem Positive.ne_zero (positive : interval.Positive) {point : Nat}
    (holds : interval.holds point = true)
    : point ≠ 0 := by
  rintro rfl
  have low := positive.low
  unfold Interval.holds at holds
  rw [Nat.zero_mul] at holds
  dsimp only at holds
  split at holds
  · have := of_decide_eq_true holds
    omega
  · have := of_decide_eq_true holds
    omega

/-- What is found on a grid lies in the interval. -/
theorem holds_of_nearest? {tie : Tie} {digits : Nat} (found : interval.nearest? tie = some digits)
    : interval.holds digits = true := by
  unfold nearest? at found
  dsimp only at found
  split at found
  · cases found
  · next below _ =>
      cases found
      exact below
  · next _ above =>
      cases found
      exact above
  · next below above =>
      split at found
      · cases found
        exact below
      · split at found
        · cases found
          exact above
        · split at found <;> cases found
          · exact above
          · split
            · exact below
            · exact above

/-- The center of the interval is at least a power of ten. -/
def Reaches (interval : Interval) (exponent : Int) : Prop :=
  (interval.onGrid exponent).scale ≤ (interval.onGrid exponent).center

/-- A center reaches every power of ten that its number of digits tells. -/
theorem reaches_of_digits {exponent : Int} {a b : Nat} (center : 10 ^ a ≤ interval.center)
    (scale : interval.scale < 10 ^ b) (small : b + exponent ≤ a)
    : interval.Reaches exponent := calc
  interval.scale * Nat.pow 10 exponent.toNat ≤ 10 ^ b * 10 ^ exponent.toNat :=
    Nat.mul_le_mul_right _ (Nat.le_of_lt scale)
  _ = 10 ^ (b + exponent.toNat) := (Nat.pow_add ..).symm
  _ ≤ 10 ^ (a + (-exponent).toNat) := Nat.pow_le_pow_right (by decide) (by omega)
  _ = 10 ^ a * 10 ^ (-exponent).toNat := Nat.pow_add ..
  _ ≤ interval.center * Nat.pow 10 (-exponent).toNat := Nat.mul_le_mul_right _ center

/-- A number has at least the power of its first digit, and less than the next one. -/
theorem pow_digits {n : Nat} (positive : 0 < n)
    : 10 ^ ((Nat.toDigits 10 n).length - 1) ≤ n ∧ n < 10 ^ (Nat.toDigits 10 n).length := by
  have some : 0 < (Nat.toDigits 10 n).length := List.length_pos_iff.mpr Nat.toDigits_ne_nil
  refine ⟨?_, (Nat.length_toDigits_le_iff (by decide) some).mp (Nat.le_refl _)⟩
  by_cases one : (Nat.toDigits 10 n).length - 1 = 0
  · rw [one]
    exact positive
  · have shorter := Nat.length_toDigits_le_iff (b := 10) (n := n) (by decide) (Nat.pos_of_ne_zero one)
    omega

/-- The center reaches the power of its leading digit. -/
theorem Positive.reaches_leadingExponent (positive : interval.Positive)
    : interval.Reaches interval.leadingExponent := by
  obtain ⟨center, _⟩ := pow_digits positive.center
  obtain ⟨_, scale⟩ := pow_digits positive.scale
  have some : 0 < (Nat.toDigits 10 interval.center).length :=
    List.length_pos_iff.mpr Nat.toDigits_ne_nil
  unfold leadingExponent
  dsimp only
  split
  · exact reaches_of_digits center scale (by omega)
  · next reached => exact Nat.le_of_not_lt reached

/-- A center that reaches a power of ten reaches the one below it. -/
theorem Reaches.pred {exponent : Int} (reaches : interval.Reaches exponent)
    : interval.Reaches (exponent - 1) := by
  unfold Reaches Interval.onGrid at *
  dsimp only at *
  by_cases positive : 0 < exponent
  · have up : (exponent.toNat) = (exponent - 1).toNat + 1 := by omega
    have down : (-exponent).toNat = 0 ∧ (-(exponent - 1)).toNat = 0 := by omega
    rw [up, down.1] at reaches
    rw [down.2]
    refine Nat.le_trans (Nat.mul_le_mul_left _ ?_) reaches
    exact Nat.pow_le_pow_right (by decide) (by omega)
  · have up : exponent.toNat = 0 ∧ (exponent - 1).toNat = 0 := by omega
    rw [up.1] at reaches
    rw [up.2]
    refine Nat.le_trans reaches (Nat.mul_le_mul_left _ ?_)
    exact Nat.pow_le_pow_right (by decide) (by omega)

end Interval

/-- Digits that are not zero are not zero without their trailing zeros.
Witness: induction on the digits.
-/
theorem Decimal.trimmed_digits_ne_zero {digits : Nat} (positive : digits ≠ 0) (exponent : Int)
    : (trimmed digits exponent).digits ≠ 0 := by
  induction digits using Nat.strongRecOn generalizing exponent with
  | ind digits ih =>
      unfold trimmed
      split
      · exact ih (digits / 10) (by omega) (by omega) (exponent + 1)
      · exact positive

/-- The digits of a positive number are not zero on any grid.
Witness: induction on the number of grids that are left; every grid is finer than the leading digit.
-/
theorem Interval.Positive.shortest_digits_ne_zero {interval : Interval} (positive : interval.Positive)
    (tie : Tie) (grids : Nat) {exponent : Int} (reaches : interval.Reaches exponent)
    : (interval.shortest tie grids exponent).digits ≠ 0 := by
  induction grids generalizing exponent with
  | zero => exact Nat.ne_of_gt (Nat.div_pos reaches (positive.onGrid exponent).scale)
  | succ grids ih =>
      rw [shortest]
      split
      · next digits found =>
          have some := (positive.onGrid exponent).ne_zero (holds_of_nearest? found)
          exact Decimal.trimmed_digits_ne_zero some _
      · exact ih reaches.pred

theorem shortestDecimal_digits_ne_zero (format : Format) (tie : Tie) {significand : Nat}
    (positive : significand ≠ 0) (exponent : Int)
    : (shortestDecimal format tie significand exponent).digits ≠ 0 := by
  have interval := Interval.positive_ofFinite format positive exponent
  rw [shortestDecimal, if_neg positive]
  exact interval.shortest_digits_ne_zero tie 17 interval.reaches_leadingExponent

-----------------------------------------------------------------------------------------
-- Decimals in the interval
-----------------------------------------------------------------------------------------

/-- The number that a decimal stands for. -/
def Decimal.value (d : Decimal) : ℚ :=
  d.digits * 10 ^ d.exponent

/-- Trailing zeros do not matter.
Witness: induction on the digits.
-/
theorem Decimal.value_trimmed (digits : Nat) (exponent : Int)
    : (trimmed digits exponent).value = digits * 10 ^ exponent := by
  induction digits using Nat.strongRecOn generalizing exponent with
  | ind digits ih =>
      unfold trimmed
      split
      · next zeros =>
          have ten : digits = digits / 10 * 10 := by omega
          rw [ih (digits / 10) (by omega), zpow_add_one₀ (by norm_num)]
          conv_rhs => rw [ten]
          push_cast
          ring
      · rfl

namespace Interval

variable {interval : Interval}

/-- A measure on a grid in multiples of the power of ten of the grid. -/
theorem cast_mul_onGrid_scale (interval : Interval) (exponent : Int) (point : Nat)
    : ((point * (interval.onGrid exponent).scale : Nat) : ℚ)
      = point * 10 ^ exponent * interval.scale * ((Nat.pow 10 (-exponent).toNat : Nat) : ℚ) := by
  have up : ((Nat.pow 10 (-exponent).toNat : Nat) : ℚ) ≠ 0 := by
    exact_mod_cast (Nat.pow_pos (by decide)).ne'
  have power := zpow_eq_div 10 exponent
  rw [eq_div_iff up] at power
  unfold onGrid
  push_cast at power ⊢
  rw [mul_right_comm _ (interval.scale : ℚ), mul_assoc _ (10 ^ exponent : ℚ), power]
  ring

theorem le_onGrid_iff (interval : Interval) (exponent : Int) (left point : Nat)
    : left * Nat.pow 10 (-exponent).toNat ≤ point * (interval.onGrid exponent).scale
      ↔ (left : ℚ) ≤ point * 10 ^ exponent * interval.scale := by
  have up : (0 : ℚ) < ((Nat.pow 10 (-exponent).toNat : Nat) : ℚ) := by
    exact_mod_cast Nat.pow_pos (by decide)
  rw [← Nat.cast_le (α := ℚ), cast_mul_onGrid_scale, Nat.cast_mul, mul_le_mul_iff_left₀ up]

theorem onGrid_le_iff (interval : Interval) (exponent : Int) (point right : Nat)
    : point * (interval.onGrid exponent).scale ≤ right * Nat.pow 10 (-exponent).toNat
      ↔ point * 10 ^ exponent * interval.scale ≤ (right : ℚ) := by
  have up : (0 : ℚ) < ((Nat.pow 10 (-exponent).toNat : Nat) : ℚ) := by
    exact_mod_cast Nat.pow_pos (by decide)
  rw [← Nat.cast_le (α := ℚ), cast_mul_onGrid_scale, Nat.cast_mul, mul_le_mul_iff_left₀ up]

/-- A point of a grid lies in the interval where the number that it stands for does. -/
theorem holds_onGrid_iff (exponent : Int) (point : Nat)
    : (interval.onGrid exponent).holds point = true ↔ interval.Contains (point * 10 ^ exponent) := by
  have low := le_onGrid_iff interval exponent interval.low point
  have high := onGrid_le_iff interval exponent point interval.high
  have above := not_congr (onGrid_le_iff interval exponent point interval.low)
  have below := not_congr (le_onGrid_iff interval exponent interval.high point)
  rw [not_le, not_le] at above below
  unfold holds Contains
  change (if interval.closed = true then _ else _) = true ↔ _
  split
  · rw [decide_eq_true_eq]
    exact and_congr low high
  · rw [decide_eq_true_eq]
    exact and_congr above below

/-- The number below the center on a grid. -/
theorem floor_onGrid (positive : 0 < interval.scale) (exponent : Int)
    : let point := (interval.onGrid exponent).center / (interval.onGrid exponent).scale
      (interval.center : ℚ) / interval.scale - 10 ^ exponent < point * 10 ^ exponent
      ∧ (point : ℚ) * 10 ^ exponent ≤ interval.center / interval.scale := by
  intro point
  have some : 0 < (interval.onGrid exponent).scale := Nat.mul_pos positive (Nat.pow_pos (by decide))
  have scale : (0 : ℚ) < interval.scale := by exact_mod_cast positive
  have below := (onGrid_le_iff interval exponent point interval.center).mp (Nat.div_mul_le_self _ _)
  have above := not_congr (onGrid_le_iff interval exponent (point + 1) interval.center)
  rw [not_le, not_le] at above
  have above := above.mp (by
    rw [Nat.mul_comm (point + 1)]
    exact Nat.lt_mul_div_succ _ some)
  rw [← le_div_iff₀ scale] at below
  rw [← div_lt_iff₀ scale] at above
  push_cast at above
  exact ⟨by linarith, below⟩

/-- The center of the interval is at least a power of ten that it reaches. -/
theorem reaches_iff (positive : 0 < interval.scale) (exponent : Int)
    : interval.Reaches exponent ↔ (10 : ℚ) ^ exponent ≤ interval.center / interval.scale := by
  have scale : (0 : ℚ) < interval.scale := by exact_mod_cast positive
  have reaches := onGrid_le_iff interval exponent 1 interval.center
  rw [Nat.one_mul, Nat.cast_one, one_mul, ← le_div_iff₀ scale] at reaches
  exact reaches

/-- A decimal near below the center lies in the interval, and so does what is found on coarser grids.
Witness: induction on the number of grids that are left.
-/
theorem contains_shortest (positive : 0 < interval.scale) (tie : Tie) (grids : Nat) {exponent : Int}
    (room : ∀ x : ℚ,
      interval.center / interval.scale - 10 ^ (exponent - grids) < x
      → x ≤ interval.center / interval.scale
      → interval.Contains x)
    : interval.Contains (interval.shortest tie grids exponent).value := by
  induction grids generalizing exponent with
  | zero =>
      obtain ⟨near, below⟩ := floor_onGrid positive exponent
      rw [Nat.cast_zero, sub_zero] at room
      exact room _ near below
  | succ grids ih =>
      rw [shortest]
      split
      · next digits found =>
          rw [Decimal.value_trimmed]
          exact (holds_onGrid_iff exponent digits).mp (holds_of_nearest? found)
      · refine ih (fun x near below => room x ?_ below)
        rwa [Nat.cast_succ, add_comm, ← sub_sub]

end Interval

/-- The shortest decimal of a number lies in its interval, where the significand has at most 55 bits.
Witness: seventeen digits after the leading one make a grid that is finer than a quarter of a unit.
-/
theorem contains_shortestDecimal (format : Format) (tie : Tie) {significand : Nat}
    (positive : 0 < significand) (small : significand ≤ 2 ^ 54) (exponent : Int)
    : (Interval.ofFinite format significand exponent).Contains
        (shortestDecimal format tie significand exponent).value := by
  have interval := Interval.positive_ofFinite format (Nat.ne_of_gt positive) exponent
  have leading := (Interval.reaches_iff interval.scale _).mp interval.reaches_leadingExponent
  have center := Interval.center_ofFinite format significand exponent
  rw [shortestDecimal, if_neg (Nat.ne_of_gt positive)]
  refine Interval.contains_shortest interval.scale tie 17 (fun x near below => ?_)
  generalize (Interval.ofFinite format significand exponent).leadingExponent = first at *
  rw [center] at leading near below
  have unit : (0 : ℚ) < 2 ^ exponent := by positivity
  have fine : (10 : ℚ) ^ (first - (17 : Nat)) < 2 ^ exponent / 4 := by
    have few : (significand : ℚ) ≤ 2 ^ 54 := by exact_mod_cast small
    rw [zpow_sub₀ (by norm_num), zpow_natCast, div_lt_iff₀ (by norm_num)]
    nlinarith
  have near : (significand : ℚ) - 1 / 4 < x / 2 ^ exponent := by
    have quarter := lt_trans (sub_lt_sub_left fine _) near
    rw [lt_div_iff₀ unit]
    linarith
  have below : x / 2 ^ exponent ≤ significand := (div_le_iff₀ unit).mpr below
  have gap : 1 / 4 ≤ format.gap significand exponent := by
    unfold Format.gap
    split <;> norm_num
  rw [Interval.contains_ofFinite_iff positive]
  split <;> constructor <;> linarith

end EntityStore.Number
