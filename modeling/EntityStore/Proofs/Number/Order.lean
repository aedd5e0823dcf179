import EntityStore.Proofs.Number.Word

/-! The order of numbers, and what rounding does to it.
Numbers have places in one row, which the infinities end, and comparing them is comparing their places.
The intervals of two numbers lie apart, so a greater whole number is never rounded to a smaller number of
64 bits, though different ones may be rounded to the same.
-/

namespace EntityStore.Number

-----------------------------------------------------------------------------------------
-- Places
-----------------------------------------------------------------------------------------

namespace Datum

/-- The place of a number: below, among or above the finite ones, and the multiple of the finest unit
there. -/
def place? : Datum → Option (Int × Int)
  | nan => none
  | infinite negative => some (if negative then -1 else 1, 0)
  | finite negative significand exponent => some (0, units negative significand exponent)

/-- The order of places. -/
def placeOrder : Int × Int → Int × Int → Ordering :=
  compareLex (compareOn (·.1)) (compareOn (·.2))

instance : Std.TransCmp placeOrder :=
  inferInstanceAs (Std.TransCmp (compareLex _ _))

/-- Numbers are compared by their places, and what stands for no number has none. -/
theorem compare?_eq (x y : Datum)
    : x.compare? y = x.place?.bind (fun place => y.place?.map (placeOrder place)) := by
  cases x with
  | nan => rfl
  | infinite negative =>
      cases y with
      | nan => rfl
      | infinite other => cases negative <;> cases other <;> rfl
      | finite s e => cases negative <;> rfl
  | finite negative significand exponent =>
      cases y with
      | nan => rfl
      | infinite other => cases other <;> rfl
      | finite negative' significand' exponent' => rfl

end Datum

-----------------------------------------------------------------------------------------
-- Intervals
-----------------------------------------------------------------------------------------

namespace Format

variable {format : Format} {significand significand' : Nat} {exponent exponent' : Int}

/-- A number with a greater exponent is not the smaller one. -/
theorem Canonical.le_of_exponent_lt (canonical : format.Canonical significand exponent)
    (canonical' : format.Canonical significand' exponent') (above : exponent' < exponent)
    : (significand' : ℚ) * 2 ^ exponent' ≤ significand * 2 ^ exponent := by
  obtain ⟨n, rfl⟩ : ∃ n : Nat, exponent = exponent' + (n + 1 : Nat) :=
    ⟨(exponent - exponent').toNat - 1, by omega⟩
  have least := canonical'.least
  have small : (significand' : ℚ) ≤ 2 * format.fractions := by exact_mod_cast canonical'.small.le
  have full : (format.fractions : ℚ) ≤ significand := by
    exact_mod_cast canonical.full.resolve_left (by omega)
  have room : (1 : ℚ) ≤ 2 ^ n := one_le_pow₀ (by norm_num)
  have unit : (0 : ℚ) < 2 ^ exponent' := by positivity
  calc
    (significand' : ℚ) * 2 ^ exponent' ≤ significand * 2 * 2 ^ exponent' := by
      gcongr
      linarith
    _ ≤ significand * 2 * 2 ^ exponent' * 2 ^ n := le_mul_of_one_le_right (by positivity) room
    _ = significand * 2 ^ (exponent' + (n + 1 : Nat)) := by
      rw [zpow_add₀ two_ne_zero, zpow_natCast]
      ring

/-- The interval of a number does not reach into that of a greater one.
Witness: at equal exponents the significands are at least one apart, and below a power of two the interval of
the power reaches down only half as far.
-/
theorem Canonical.apart (canonical : format.Canonical significand exponent)
    (canonical' : format.Canonical significand' exponent')
    (less : (significand : ℚ) * 2 ^ exponent < significand' * 2 ^ exponent')
    : ((significand : ℚ) + 1 / 2) * 2 ^ exponent
      ≤ (significand' - format.gap significand' exponent') * 2 ^ exponent' := by
  have unit : (0 : ℚ) < 2 ^ exponent := by positivity
  rcases Int.lt_trichotomy exponent exponent' with before | rfl | behind
  · obtain ⟨n, rfl⟩ : ∃ n : Nat, exponent' = exponent + (n + 1 : Nat) :=
      ⟨(exponent' - exponent).toNat - 1, by omega⟩
    have least := canonical.least
    have small : (significand : ℚ) + 1 ≤ 2 * format.fractions := by exact_mod_cast canonical.small
    have full : format.fractions ≤ significand' := canonical'.full.resolve_left (by omega)
    have low : (format.fractions : ℚ) - 1 / 4
        ≤ significand' - format.gap significand' (exponent + (n + 1 : Nat)) := by
      rcases Nat.eq_or_lt_of_le full with exact | more
      · have gap : format.gap significand' (exponent + (n + 1 : Nat)) = 1 / 4 :=
          if_pos ⟨exact.symm, by omega⟩
        rw [gap, exact]
      · have more : (format.fractions : ℚ) + 1 ≤ significand' := by exact_mod_cast more
        linarith [format.gap_le significand' (exponent + (n + 1 : Nat))]
    have room : (1 : ℚ) ≤ 2 ^ n := one_le_pow₀ (by norm_num)
    have some := format.one_le_cast_fractions
    calc
      ((significand : ℚ) + 1 / 2) * 2 ^ exponent
          ≤ (format.fractions - 1 / 4) * 2 * 2 ^ exponent := by
        gcongr
        linarith
      _ ≤ (format.fractions - 1 / 4) * 2 * 2 ^ exponent * 2 ^ n :=
        le_mul_of_one_le_right (mul_nonneg (by linarith) unit.le) room
      _ = (format.fractions - 1 / 4) * 2 ^ (exponent + (n + 1 : Nat)) := by
        rw [zpow_add₀ two_ne_zero, zpow_natCast]
        ring
      _ ≤ _ := by gcongr
  · have next : (significand : ℚ) + 1 ≤ significand' := by
      exact_mod_cast (mul_lt_mul_iff_left₀ unit).mp less
    gcongr
    linarith [format.gap_le significand' exponent]
  · exact absurd less (canonical.le_of_exponent_lt canonical' behind).not_gt

/-- A quotient in the interval of a number is not above one in the interval of a smaller number. -/
theorem Canonical.le_of_near (canonical : format.Canonical significand exponent)
    (canonical' : format.Canonical significand' exponent')
    {x y : ℚ} (near : format.Near significand exponent (x / 2 ^ exponent))
    (near' : format.Near significand' exponent' (y / 2 ^ exponent')) (less : x < y)
    : (significand : ℚ) * 2 ^ exponent ≤ significand' * 2 ^ exponent' := by
  by_contra above
  have apart := canonical'.apart canonical (lt_of_not_ge above)
  have low := (le_div_iff₀ (by positivity)).mp near.low
  have high := (div_le_iff₀ (by positivity)).mp near'.high
  linarith

end Format

-----------------------------------------------------------------------------------------
-- Whole numbers
-----------------------------------------------------------------------------------------

namespace Double

/-- The number of 64 bits that a whole number without a sign is rounded to. -/
structure Rounds (n significand : Nat) (exponent : Int) : Prop where
  finite : Format.double.Finite significand exponent
  near : Format.double.Near significand exponent ((n : ℚ) / 2 ^ exponent)
  round
    : ∀ negative : Bool,
        Format.double.round negative n 1
          = (if negative then Format.double.signBit else 0) + Format.double.word significand exponent

/-- What whole numbers of 64 bits are rounded to has a small exponent. -/
theorem exponent_le {n significand : Nat} {exponent : Int}
    (canonical : Format.double.Canonical significand exponent)
    (near : Format.double.Near significand exponent ((n : ℚ) / 2 ^ exponent)) (small : n ≤ 2 ^ 63)
    : exponent ≤ 11 := by
  have fractions : Format.double.fractions = 2 ^ 52 := rfl
  have leastExponent : Format.double.leastExponent = -1074 := rfl
  by_contra above
  have full : 2 ^ 52 ≤ significand := canonical.full.resolve_left (by omega)
  have full : (2 : ℚ) ^ 52 ≤ significand := by exact_mod_cast full
  have scaled : (n : ℚ) / 2 ^ exponent ≤ 2 ^ 63 / 2 ^ 12 := by
    have power : (2 : ℚ) ^ 12 ≤ 2 ^ exponent := by
      rw [← zpow_natCast]
      exact zpow_le_zpow_right₀ (by norm_num) (by omega)
    have small : (n : ℚ) ≤ 2 ^ 63 := by exact_mod_cast small
    gcongr
  linarith [near.low, Format.double.gap_le significand exponent]

/-- Whole numbers of 64 bits are rounded to finite numbers. -/
theorem exists_rounds {n : Nat} (small : n ≤ 2 ^ 63)
    : ∃ significand exponent, Rounds n significand exponent := by
  have fractions : Format.double.fractions = 2 ^ 52 := rfl
  have leastExponent : Format.double.leastExponent = -1074 := rfl
  have allOnes : Format.double.allOnes = 2047 := rfl
  rcases Nat.eq_zero_or_pos n with rfl | positive
  · refine ⟨0, -1074, ⟨⟨by decide, by decide, Or.inl rfl⟩, by decide⟩, ⟨?_, ?_, by decide⟩,
      fun negative => by cases negative <;> rfl⟩
    · have gap : Format.double.gap 0 (-1074) = 1 / 2 := if_neg (by decide)
      simp [gap]
    · simp
  have least : (2 : ℚ) ^ Format.double.leastExponent ≤ (n : ℚ) / (1 : Nat) := by
    have one : (1 : ℚ) ≤ n := by exact_mod_cast positive
    rw [Nat.cast_one, div_one]
    exact (zpow_le_one_of_nonpos₀ (by norm_num) (by decide)).trans one
  obtain ⟨significand, exponent, canonical, some, inside⟩ :=
    Format.double.exists_contains rfl positive Nat.one_pos least
  have near := Format.near_of_contains some inside
  rw [Nat.cast_one, div_one] at near
  have low := exponent_le canonical near small
  have finite : Format.double.Finite significand exponent := by
    have rank : (exponent - -1074).toNat ≤ 1085 := by omega
    have room := Nat.mul_le_mul_right (2 ^ 52) rank
    have wide := canonical.small
    refine ⟨canonical, ?_⟩
    rw [Format.word, leastExponent, fractions, allOnes]
    omega
  exact ⟨significand, exponent, finite, near,
    fun negative => finite.round_eq some negative Nat.one_pos inside⟩

namespace Rounds

variable {n n' significand significand' : Nat} {exponent exponent' : Int}

/-- A whole number is rounded to one number. -/
theorem unique (rounds : Rounds n significand exponent) (rounds' : Rounds n significand' exponent')
    : significand = significand' ∧ exponent = exponent' := by
  have same := rounds.finite.ofWord_word false
  rw [← rounds.round, rounds'.round, rounds'.finite.ofWord_word] at same
  cases same
  exact ⟨rfl, rfl⟩

/-- A greater whole number is not rounded to a smaller number. -/
theorem le (rounds : Rounds n significand exponent) (rounds' : Rounds n' significand' exponent')
    (order : n ≤ n')
    : (significand : ℚ) * 2 ^ exponent ≤ significand' * 2 ^ exponent' := by
  rcases Nat.eq_or_lt_of_le order with rfl | less
  · obtain ⟨rfl, rfl⟩ := rounds.unique rounds'
    exact le_rfl
  · exact rounds.finite.le_of_near rounds'.finite.toCanonical rounds.near rounds'.near
      (by exact_mod_cast less)

end Rounds

/-- The meaning of a rounded whole number has its sign. -/
theorem Rounds.datum {i : Int} {significand : Nat} {exponent : Int}
    (rounds : Rounds i.natAbs significand exponent)
    : (ofInt i).datum = .finite (i < 0) significand exponent := by
  have bounded := rounds.finite.bounded
  have small : Format.double.allOnes * Format.double.fractions < 2 ^ 63 := by decide
  have sign : Format.double.signBit = 2 ^ 63 := rfl
  rw [Double.datum, ofInt, ofWord, rounds.round, UInt64.toNat_ofNat', Nat.mod_eq_of_lt]
  · exact rounds.finite.ofWord_word _
  · split <;> omega

end Double

/-- The multiple of the finest unit that a number without a sign is. -/
theorem Datum.cast_units {significand : Nat} {exponent : Int} (least : unitExponent ≤ exponent)
    : ((units false significand exponent : Int) : ℚ) = significand * 2 ^ exponent / 2 ^ unitExponent := by
  obtain ⟨n, rfl⟩ : ∃ n : Nat, exponent = unitExponent + n :=
    ⟨(exponent - unitExponent).toNat, by omega⟩
  have shift : (unitExponent + (n : Int) - unitExponent).toNat = n := by omega
  rw [units, shift, Nat.shiftLeft_eq, zpow_add₀ two_ne_zero, zpow_natCast]
  push_cast
  field_simp

namespace Double

/-- A greater whole number is not rounded to fewer units. -/
theorem Rounds.units_le {n n' significand significand' : Nat} {exponent exponent' : Int}
    (rounds : Rounds n significand exponent) (rounds' : Rounds n' significand' exponent')
    (order : n ≤ n')
    : Datum.units false significand exponent ≤ Datum.units false significand' exponent' := by
  have units : ((Datum.units false significand exponent : Int) : ℚ)
      ≤ (Datum.units false significand' exponent' : Int) := by
    rw [Datum.cast_units rounds.finite.least, Datum.cast_units rounds'.finite.least]
    have := rounds.le rounds' order
    gcongr
  exact_mod_cast units

/-- Whole numbers of 64 bits are rounded to finite numbers in the same order. -/
theorem place?_ofInt {i j : Int} (least : -2 ^ 63 ≤ i) (order : i ≤ j) (greatest : j ≤ 2 ^ 63)
    : ∃ u v,
        (ofInt i).datum.place? = some (0, u)
        ∧ (ofInt j).datum.place? = some (0, v)
        ∧ u ≤ v := by
  obtain ⟨s, e, rounds⟩ := exists_rounds (n := i.natAbs) (by omega)
  obtain ⟨s', e', rounds'⟩ := exists_rounds (n := j.natAbs) (by omega)
  have opposite (s : Nat) (e : Int) : Datum.units true s e = -Datum.units false s e := rfl
  have above (s : Nat) (e : Int) : 0 ≤ Datum.units false s e := Int.natCast_nonneg _
  refine ⟨_, _, by rw [rounds.datum, Datum.place?], by rw [rounds'.datum, Datum.place?], ?_⟩
  rcases lt_or_ge j 0 with below | nonneg
  · -- The greater one of two negative numbers has the smaller magnitude.
    rw [decide_eq_true (show i < 0 by omega), decide_eq_true below, opposite, opposite]
    exact Int.neg_le_neg (rounds'.units_le rounds (by omega))
  · rw [decide_eq_false (show ¬ j < 0 by omega)]
    rcases lt_or_ge i 0 with below | nonneg'
    · rw [decide_eq_true below, opposite]
      have := above s e
      have := above s' e'
      omega
    · rw [decide_eq_false (show ¬ i < 0 by omega)]
      exact rounds.units_le rounds' (by omega)

end Double

end EntityStore.Number
