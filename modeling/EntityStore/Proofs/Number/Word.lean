import EntityStore.Proofs.Number.Shortest

/-! Words of finite numbers.
A word is a sign, a rank of its exponent and a significand, and the meaning of a word gives them back. So
what is rounded to a number is rounded to its very word.
-/

namespace EntityStore.Number

namespace Format

variable {format : Format} {significand : Nat} {exponent : Int}

/-- The sign is above all exponents. -/
theorem signBit_eq (format : Format) : format.signBit = format.fractions * (format.allOnes + 1) := by
  have some := Nat.two_pow_pos format.exponentBits
  rw [signBit, fractions, allOnes, Nat.one_shiftLeft, Nat.one_shiftLeft, Nat.one_shiftLeft, Nat.pow_add,
    Nat.sub_add_cancel some]

/-- A word is made of a sign, an exponent field and a fraction. -/
theorem word_parts (format : Format) (word : Nat)
    : word
      = word / format.signBit * format.signBit
        + word / format.fractions % (format.allOnes + 1) * format.fractions
        + word % format.fractions := by
  have sign : word / format.signBit = word / format.fractions / (format.allOnes + 1) := by
    rw [Nat.div_div_eq_div_mul, signBit_eq]
  calc
    word = format.fractions * (word / format.fractions) + word % format.fractions :=
      (Nat.div_add_mod ..).symm
    _ = format.fractions
          * ((format.allOnes + 1) * (word / format.fractions / (format.allOnes + 1))
            + word / format.fractions % (format.allOnes + 1))
        + word % format.fractions := by
      rw [Nat.div_add_mod (word / format.fractions) (format.allOnes + 1)]
    _ = _ := by
      rw [sign, signBit_eq]
      ring

/-- The word of a finite number is made of its sign, its exponent and its significand. -/
theorem eq_word_of_finite {word : Nat} {negative : Bool} (small : word < 2 * format.signBit)
    (finite : Datum.ofWord format word = .finite negative significand exponent)
    : format.Finite significand exponent
      ∧ word = (if negative then format.signBit else 0) + format.word significand exponent := by
  have fraction := Nat.mod_lt word format.fractions_pos
  have width := Nat.mod_lt (word / format.fractions) (Nat.succ_pos format.allOnes)
  have bit : word / format.signBit < 2 := by
    have some : 0 < format.signBit := by omega
    rwa [Nat.div_lt_iff_lt_mul some]
  have signed : word / format.signBit * format.signBit
      = if word / format.signBit % 2 = 1 then format.signBit else 0 := by
    rcases Nat.le_one_iff_eq_zero_or_eq_one.mp (Nat.le_of_lt_succ bit) with zero | one
    · rw [zero]
      simp
    · rw [one]
      simp
  have parts := format.word_parts word
  rw [signed] at parts
  unfold Datum.ofWord at finite
  dsimp only at finite
  generalize word % format.fractions = low at *
  generalize word / format.fractions % (format.allOnes + 1) = field at *
  split at finite
  · split at finite <;> cases finite
  · next other =>
      have room : field + 1 ≤ format.allOnes := by omega
      have room := Nat.mul_le_mul_right format.fractions room
      rw [Nat.add_one_mul] at room
      split at finite
      · next zero =>
          cases finite
          have word : format.word significand format.leastExponent = significand := by simp [Format.word]
          rw [zero, Nat.zero_mul] at parts room
          exact ⟨⟨⟨by omega, Int.le_refl _, Or.inl rfl⟩, by rw [word]; omega⟩,
            by rw [word]; simpa using parts⟩
      · next some =>
          cases finite
          have word : format.word (format.fractions + low) (format.leastExponent + (field - 1))
              = field * format.fractions + low := by
            obtain ⟨rank, rfl⟩ := Nat.exists_eq_succ_of_ne_zero some
            rw [Format.word, show (format.leastExponent + ((rank.succ : Int) - 1)
              - format.leastExponent).toNat = rank by omega, Nat.succ_mul]
            omega
          exact ⟨⟨⟨by omega, by omega, Or.inr (by omega)⟩, by rw [word]; omega⟩,
            by rw [word]; simpa [Nat.add_assoc] using parts⟩

/-- A sign leaves the exponent field and the fraction of a word as they are. -/
theorem signed_parts {word : Nat} (small : word < format.signBit) (negative : Bool)
    : let signed := (if negative then format.signBit else 0) + word
      decide (signed / format.signBit % 2 = 1) = negative
      ∧ signed / format.fractions % (format.allOnes + 1)
        = word / format.fractions % (format.allOnes + 1)
      ∧ signed % format.fractions = word % format.fractions := by
  have above : 0 < format.signBit := Nat.zero_lt_of_lt small
  intro signed
  cases negative with
  | true =>
      refine ⟨?_, ?_, ?_⟩
      · rw [decide_eq_true_eq]
        change (format.signBit + word) / format.signBit % 2 = 1
        rw [Nat.add_div_left _ above, Nat.div_eq_of_lt small]
      · change (format.signBit + word) / format.fractions % (format.allOnes + 1) = _
        rw [signBit_eq, Nat.mul_add_div format.fractions_pos, Nat.add_mod_left]
      · change (format.signBit + word) % format.fractions = _
        rw [signBit_eq, Nat.mul_add_mod]
  | false =>
      have same : signed = word := Nat.zero_add word
      rw [same, Nat.div_eq_of_lt small]
      exact ⟨rfl, rfl, rfl⟩

/-- The meaning of the word of a finite number is the number. -/
theorem Finite.ofWord_word (finite : format.Finite significand exponent) (negative : Bool)
    : Datum.ofWord format
        ((if negative then format.signBit else 0) + format.word significand exponent)
      = .finite negative significand exponent := by
  obtain ⟨canonical, bounded⟩ := finite
  have some := format.fractions_pos
  have below : format.word significand exponent < format.signBit := by
    rw [signBit_eq, Nat.mul_add_one, Nat.mul_comm]
    omega
  obtain ⟨sign, sameField, sameFraction⟩ := signed_parts below negative
  unfold Datum.ofWord
  dsimp only at sign sameField sameFraction ⊢
  rw [sign, sameField, sameFraction]
  clear sign sameField sameFraction
  rcases Nat.lt_or_ge significand format.fractions with low | high
  · obtain rfl := canonical.full.resolve_right (by omega)
    have word : format.word significand format.leastExponent = significand := by simp [Format.word]
    have other : 0 ≠ format.allOnes := by
      rintro zero
      rw [← zero] at bounded
      omega
    rw [word, Nat.div_eq_of_lt low, Nat.mod_eq_of_lt low, Nat.zero_mod, if_neg other, if_pos rfl]
  · obtain ⟨fraction, rfl⟩ := Nat.exists_eq_add_of_le high
    obtain ⟨rank, rfl⟩ := Int.le.dest canonical.least
    have small : fraction < format.fractions := by
      have := canonical.small
      omega
    have word : format.word (format.fractions + fraction) (format.leastExponent + rank)
        = fraction + format.fractions * (rank + 1) := by
      rw [Format.word, show (format.leastExponent + (rank : Int) - format.leastExponent).toNat = rank by
        omega]
      ring
    have room : rank + 1 < format.allOnes := by
      rw [word, Nat.mul_comm] at bounded
      exact Nat.lt_of_mul_lt_mul_right (Nat.lt_of_le_of_lt (Nat.le_add_left ..) bounded)
    rw [word, Nat.add_mul_div_left _ _ some, Nat.div_eq_of_lt small, Nat.zero_add,
      Nat.add_mul_mod_self_left, Nat.mod_eq_of_lt small, Nat.mod_eq_of_lt (by omega), if_neg (by omega),
      if_neg (by omega), show ((rank + 1 : Nat) : Int) - 1 = rank by omega]

end Format

-----------------------------------------------------------------------------------------
-- 64 bits
-----------------------------------------------------------------------------------------

/-- A bit above all bits of a number is set by adding it. -/
theorem xor_two_pow {n width : Nat} (small : n < 2 ^ width) : n ^^^ 2 ^ width = 2 ^ width + n := by
  refine Nat.eq_of_testBit_eq (fun i => ?_)
  rw [Nat.testBit_xor]
  rcases Nat.lt_trichotomy i width with below | rfl | above
  · rw [Nat.testBit_two_pow_add_gt below, Nat.testBit_two_pow_of_ne (by omega), Bool.xor_false]
  · rw [Nat.testBit_two_pow_add_eq, Nat.testBit_two_pow_self, Bool.xor_true]
  · have high : 2 ^ (width + 1) ≤ 2 ^ i := Nat.pow_le_pow_right (by decide) above
    rw [Nat.pow_succ] at high
    rw [Nat.testBit_two_pow_of_ne (by omega), Nat.testBit_lt_two_pow (by omega),
      Nat.testBit_lt_two_pow (by omega), Bool.xor_false]

namespace Double

/-- The opposite of a number without a sign. -/
theorem neg_ofWord {word : Nat} (small : word < 2 ^ 63)
    : (ofWord word).neg = ofWord (Format.double.signBit + word) := by
  unfold ofWord neg
  congr 1
  rw [← UInt64.toNat_inj, UInt64.toNat_xor, UInt64.toNat_ofNat', UInt64.toNat_ofNat',
    Nat.mod_eq_of_lt (by omega)]
  rw [show (0x8000000000000000 : UInt64).toNat = 2 ^ 63 from rfl, xor_two_pow small,
    show Format.double.signBit = 2 ^ 63 from rfl, Nat.mod_eq_of_lt (by omega)]

variable {x : Double} {negative : Bool} {significand : Nat} {exponent : Int}

/-- A finite number of 64 bits has the word of its sign, its exponent and its significand. -/
theorem eq_ofWord_of_finite (meaning : x.datum = .finite negative significand exponent)
    : Format.double.Finite significand exponent
      ∧ x = (if negative then (ofWord (Format.double.word significand exponent)).neg
          else ofWord (Format.double.word significand exponent)) := by
  obtain ⟨finite, word⟩ := Format.eq_word_of_finite x.bits.toNat_lt meaning
  refine ⟨finite, ?_⟩
  have same : x = ofWord x.bits.toNat := by
    rw [ofWord, UInt64.ofNat_toNat]
  have small : Format.double.allOnes * Format.double.fractions < 2 ^ 63 := by decide
  rw [same, word]
  cases negative with
  | true =>
      rw [if_pos rfl, if_pos rfl, neg_ofWord (Nat.lt_trans finite.bounded small)]
  | false => rw [if_neg Bool.false_ne_true, if_neg Bool.false_ne_true, Nat.zero_add]

/-- A quotient in the interval of a number without a sign is rounded to it. -/
theorem ofRatio_eq (finite : Format.double.Finite significand exponent) (some : 0 < significand)
    {numerator denominator : Nat} (positive : 0 < denominator)
    (inside : (Interval.ofFinite .double significand exponent).Contains (numerator / denominator))
    : ofRatio false numerator denominator = ofWord (Format.double.word significand exponent) := by
  rw [ofRatio, finite.round_eq some false positive inside]
  simp

/-- The meaning of a finite number that has got its sign. -/
theorem datum_signed (finite : Format.double.Finite significand exponent) (negative : Bool)
    : (if negative then (ofWord (Format.double.word significand exponent)).neg
        else ofWord (Format.double.word significand exponent)).datum
      = .finite negative significand exponent := by
  have small : Format.double.allOnes * Format.double.fractions < 2 ^ 63 := by decide
  have sign : Format.double.signBit = 2 ^ 63 := rfl
  have meaning := finite.ofWord_word negative
  have bounded := finite.bounded
  have word : (if negative then (ofWord (Format.double.word significand exponent)).neg
        else ofWord (Format.double.word significand exponent))
      = ofWord ((if negative then Format.double.signBit else 0)
          + Format.double.word significand exponent) := by
    cases negative with
    | true => exact neg_ofWord (Nat.lt_trans bounded small)
    | false => simp
  rw [word, datum, ofWord, UInt64.toNat_ofNat', Nat.mod_eq_of_lt, meaning]
  split <;> omega

end Double

-----------------------------------------------------------------------------------------
-- 32 bits
-----------------------------------------------------------------------------------------

namespace Single

variable {x : Single} {y : Double} {negative : Bool} {significand near : Nat} {exponent fine : Int}

/-- A finite number of 32 bits has the word of its sign, its exponent and its significand. -/
theorem eq_ofWord_of_finite (meaning : x.datum = .finite negative significand exponent)
    : Format.single.Finite significand exponent
      ∧ x = ofWord ((if negative then Format.single.signBit else 0)
          + Format.single.word significand exponent) := by
  obtain ⟨finite, word⟩ := Format.eq_word_of_finite x.bits.toNat_lt meaning
  refine ⟨finite, ?_⟩
  rw [← word, ofWord, UInt32.ofNat_toNat]

/-- A number of 64 bits in the interval of a number of 32 bits is rounded to it. -/
theorem ofDouble_eq (finite : Format.single.Finite significand exponent) (positive : 0 < significand)
    (meaning : y.datum = .finite negative near fine)
    (inside : (Interval.ofFinite .single significand exponent).Contains (near * 2 ^ fine))
    : ofDouble y = ofWord ((if negative then Format.single.signBit else 0)
        + Format.single.word significand exponent) := by
  have ratio : (near : ℚ) * (2 : ℚ) ^ fine
      = ((near <<< fine.toNat : Nat) : ℚ) / ((1 <<< (-fine).toNat : Nat) : ℚ) := by
    have power := zpow_eq_div 2 fine
    rw [Nat.pow_eq, Nat.pow_eq] at power
    push_cast at power
    rw [power, Nat.one_shiftLeft, Nat.shiftLeft_eq]
    push_cast
    ring
  have some : 0 < 1 <<< (-fine).toNat := by
    rw [Nat.one_shiftLeft]
    exact Nat.two_pow_pos _
  rw [ratio] at inside
  rw [ofDouble, meaning]
  dsimp only
  rw [Format.roundDyadic, finite.round_eq positive negative some inside]

end Single

end EntityStore.Number
