import EntityStore.Proofs.Json.Real

/-! Every data text of a number is a number literal.
The shortest digits of a number that is not zero are not zero, so its text starts with the first of them,
or with the one zero in front of a point. The literal stands for the shortest decimal; where that is a whole
number, the zero after the point is one digit more.
-/

namespace EntityStore.Number

open Json

-----------------------------------------------------------------------------------------
-- Shown digits
-----------------------------------------------------------------------------------------

/-- A whole number with the zero that is written after its point. -/
def Decimal.pointed (d : Decimal) : Decimal :=
  if 0 ≤ d.exponent then ⟨d.digits * 10 ^ (d.exponent.toNat + 1), -1⟩ else d

/-- The digits that the data text of a finite number shows. -/
def shownDecimal (format : Format) (range : PositionalRange) (significand : Nat) (exponent : Int)
    : Decimal :=
  let d := shortestDecimal format .even significand exponent
  if significand = 0 then ⟨0, -1⟩
  else if range.least ≤ d.scientificExponent ∧ d.scientificExponent ≤ range.greatest then d.pointed
  else d

theorem Decimal.value_pointed (d : Decimal) : d.pointed.value = d.value := by
  unfold pointed
  split
  · next whole =>
      obtain ⟨n, same⟩ := Int.eq_ofNat_of_zero_le whole
      rw [value, value, same, Int.toNat_natCast, zpow_natCast]
      push_cast
      rw [pow_succ, zpow_neg_one]
      field_simp
  · rfl

/-- The shown digits of a number stand for a number in its interval. -/
theorem contains_shownDecimal (format : Format) (range : PositionalRange) {significand : Nat}
    (positive : 0 < significand) (small : significand ≤ 2 ^ 54) (exponent : Int)
    : (Interval.ofFinite format significand exponent).Contains
        (shownDecimal format range significand exponent).value := by
  have inside := contains_shortestDecimal format .even positive small exponent
  unfold shownDecimal
  dsimp only
  rw [if_neg (Nat.ne_of_gt positive)]
  split
  · rwa [Decimal.value_pointed]
  · exact inside

-----------------------------------------------------------------------------------------
-- Data texts
-----------------------------------------------------------------------------------------

/-- A literal writes a decimal as a floating point number, and its exponent is hardly longer than that of
the decimal.
-/
structure Writes (literal : Literal) (d : Decimal) : Prop where
  isReal : literal.IsReal
  digits : literal.significand = d.digits
  exponent : literal.scale = d.exponent
  few
    : ∀ part ∈ literal.exponent,
        Nat.ofDigitChars 10 part.2 0 ≤ (Nat.toDigits 10 d.digits).length + d.exponent.natAbs

/-- A text is a literal without a sign that writes a decimal. -/
def Denotes (text : String) (d : Decimal) : Prop :=
  ∃ literal : Literal, literal.isNegative = false ∧ literal.chars = text.toList ∧ Writes literal d

/-- A literal without a sign may be given one. -/
theorem Denotes.signed {text : String} {d : Decimal} (denotes : Denotes text d) (isNegative : Bool)
    : ∃ literal : Literal,
        literal.isNegative = isNegative
        ∧ literal.chars = ((if isNegative then "-" else "") ++ text).toList
        ∧ Writes literal d := by
  obtain ⟨literal, plain, chars, isReal, digits, exponent, few⟩ := denotes
  refine ⟨{ literal with isNegative }, rfl, ?_, isReal, digits, exponent, few⟩
  rw [String.toList_append, ← chars]
  cases isNegative <;>
    simp [Literal.chars, Literal.signChars, Literal.fractionChars, Literal.exponentChars, plain]

theorem allDigits_append {left right : List Char} (all : AllDigits left) (all' : AllDigits right)
    : AllDigits (left ++ right) := by
  intro c inside
  exact (List.mem_append.mp inside).elim (all c) (all' c)

theorem allDigits_zeros (count : Nat) : AllDigits (List.replicate count '0') := by
  intro c inside
  rw [List.eq_of_mem_replicate inside]
  decide

namespace Decimal

variable {d : Decimal}

theorem toList_zeros (count : Nat) : (zeros count).toList = List.replicate count '0' := by
  simp [zeros]

/-- A whole number is written with a zero after its point. -/
theorem denotes_whole (positive : d.digits ≠ 0) (whole : 0 ≤ d.exponent)
    : Denotes (d.positional ++ ".0") d.pointed := by
  obtain ⟨c, rest, form, other⟩ := toDigits_head_ne_zero positive
  refine ⟨{ isNegative := false
            whole := Nat.toDigits 10 d.digits ++ List.replicate d.exponent.toNat '0'
            fraction := ['0']
            exponent := none
            wholeDigits := allDigits_append (allDigits_toDigits _) (allDigits_zeros _)
            wholeForm := Or.inr ⟨c, _, by rw [form]; rfl, other⟩
            fractionDigits := by simp [AllDigits, isDigit]
            exponentDigits := by simp }, rfl, ?_, Or.inl (List.cons_ne_nil _ _), ?_, ?_, by simp⟩
  · rw [positional]
    simp [if_pos whole, Literal.chars, Literal.signChars, Literal.fractionChars,
      Literal.exponentChars, toList_zeros]
  · rw [pointed, if_pos whole, Literal.significand, Nat.ofDigitChars_append, Nat.ofDigitChars_append,
      Nat.ofDigitChars_replicate_zero, Nat.ofDigitChars_ten_toDigits, Nat.pow_succ]
    simp [Nat.ofDigitChars]
    ring
  · rw [pointed, if_pos whole]
    rfl

/-- The point of a number stands between its digits. -/
theorem denotes_between (positive : d.digits ≠ 0) (broken : d.exponent < 0)
    (inside : 0 < ((Nat.toDigits 10 d.digits).length : Int) + d.exponent)
    : Denotes d.positional d := by
  have all := allDigits_toDigits d.digits
  obtain ⟨c, rest, form, other⟩ := toDigits_head_ne_zero positive
  obtain ⟨point, stands⟩
      : ∃ point, (((Nat.toDigits 10 d.digits).length : Int) + d.exponent).toNat = point :=
    ⟨_, rfl⟩
  have fraction : (Nat.toDigits 10 d.digits).drop point ≠ [] := by
    rw [Ne, List.drop_eq_nil_iff]
    omega
  have head : (Nat.toDigits 10 d.digits).take point = c :: rest.take (point - 1) := by
    obtain ⟨less, rfl⟩ : ∃ less, point = less + 1 := ⟨point - 1, by omega⟩
    rw [form]
    rfl
  refine ⟨{ isNegative := false
            whole := (Nat.toDigits 10 d.digits).take point
            fraction := (Nat.toDigits 10 d.digits).drop point
            exponent := none
            wholeDigits := fun c inside => all c (List.mem_of_mem_take inside)
            wholeForm := Or.inr ⟨c, _, head, other⟩
            fractionDigits := fun c inside => all c (List.mem_of_mem_drop inside)
            exponentDigits := by simp }, rfl, ?_, Or.inl fraction, ?_, ?_, by simp⟩
  · rw [positional, if_neg (by omega), if_pos inside, stands]
    simp [Literal.chars, Literal.signChars, Literal.fractionChars, Literal.exponentChars, fraction]
  · rw [Literal.significand, List.take_append_drop, Nat.ofDigitChars_ten_toDigits]
  · rw [Literal.scale, Literal.writtenExponent, List.length_drop]
    dsimp only
    omega

/-- The digits of a small number stand behind zeros after its point. -/
theorem denotes_behind (broken : d.exponent < 0)
    (behind : ¬ 0 < ((Nat.toDigits 10 d.digits).length : Int) + d.exponent)
    : Denotes d.positional d := by
  have some : Nat.toDigits 10 d.digits ≠ [] := Nat.toDigits_ne_nil
  obtain ⟨count, same⟩ := Int.eq_ofNat_of_zero_le (Int.neg_nonneg.mpr (Int.not_lt.mp behind))
  refine ⟨{ isNegative := false
            whole := ['0']
            fraction := List.replicate count '0' ++ Nat.toDigits 10 d.digits
            exponent := none
            wholeDigits := by simp [AllDigits, isDigit]
            wholeForm := Or.inl rfl
            fractionDigits := allDigits_append (allDigits_zeros _) (allDigits_toDigits _)
            exponentDigits := by simp }, rfl, ?_, Or.inl (by simp [some]), ?_, ?_, by simp⟩
  · rw [positional, if_neg (by omega), if_neg behind, same]
    simp [Literal.chars, Literal.signChars, Literal.fractionChars, Literal.exponentChars,
      toList_zeros, some]
  · have zeros : Nat.ofDigitChars 10 (['0'] ++ (List.replicate count '0' ++ Nat.toDigits 10 d.digits)) 0
        = Nat.ofDigitChars 10 (Nat.toDigits 10 d.digits) 0 := by
      rw [Nat.ofDigitChars_append, Nat.ofDigitChars_append, Nat.ofDigitChars_replicate_zero]
      rfl
    rw [Literal.significand, zeros, Nat.ofDigitChars_ten_toDigits]
  · rw [Literal.scale, Literal.writtenExponent, List.length_append, List.length_replicate]
    dsimp only
    omega

/-- A number in scientific notation. -/
theorem denotes_scientific (positive : d.digits ≠ 0) : Denotes d.scientific d := by
  have all := allDigits_toDigits d.digits
  obtain ⟨c, rest, form, other⟩ := toDigits_head_ne_zero positive
  have length : (Nat.toDigits 10 d.digits).length = rest.length + 1 := by rw [form]; rfl
  have value := Nat.ofDigitChars_ten_toDigits (n := d.digits)
  have scientificExponent : d.scientificExponent = d.exponent + rest.length := by
    rw [Decimal.scientificExponent, length]
    omega
  rw [form] at all value
  refine ⟨{ isNegative := false
            whole := [c]
            fraction := rest
            exponent := some (decide (d.scientificExponent < 0),
              Nat.toDigits 10 d.scientificExponent.natAbs)
            wholeDigits := fun c inside => all c (by rw [List.mem_singleton.mp inside]; exact .head _)
            wholeForm := Or.inr ⟨c, [], rfl, other⟩
            fractionDigits := fun c inside => all c (.tail _ inside)
            exponentDigits := by
              rintro part ⟨⟩
              exact ⟨Nat.toDigits_ne_nil, allDigits_toDigits _⟩ },
    rfl, ?_, Or.inr (Option.some_ne_none _), value, ?_, ?_⟩
  · unfold scientific
    rw [form]
    cases rest <;> by_cases down : d.scientificExponent < 0 <;>
      simp [Literal.chars, Literal.signChars, Literal.fractionChars, Literal.exponentChars, down, digitText]
  · rw [Literal.scale, Literal.writtenExponent]
    simp only [Nat.ofDigitChars_ten_toDigits, decide_eq_true_eq]
    split <;> omega
  · rintro part ⟨⟩
    rw [Nat.ofDigitChars_ten_toDigits]
    omega

end Decimal

/-- A data text is a literal that writes the shown digits. -/
theorem writes_of_dataText? {format : Format} {range : PositionalRange} {negative : Bool}
    {significand : Nat} {exponent : Int} {text : String}
    (written : dataText? format range (.finite negative significand exponent) = some text)
    : ∃ literal : Literal,
        literal.isNegative = negative
        ∧ literal.chars = text.toList
        ∧ Writes literal (shownDecimal format range significand exponent) := by
  obtain rfl := Option.some.inj written
  refine Denotes.signed ?_ negative
  unfold shownDecimal
  dsimp only
  by_cases zero : significand = 0
  · rw [if_pos zero, if_pos zero]
    exact ⟨⟨false, ['0'], ['0'], none, by simp [AllDigits, isDigit], Or.inl rfl,
        by simp [AllDigits, isDigit], by simp⟩,
      rfl, rfl, Or.inl (List.cons_ne_nil _ _), rfl, rfl, by simp⟩
  · rw [if_neg zero, if_neg zero]
    have digits := shortestDecimal_digits_ne_zero format .even zero exponent
    generalize shortestDecimal format .even significand exponent = d at digits
    split
    · by_cases whole : 0 ≤ d.exponent
      · rw [if_pos whole]
        exact Decimal.denotes_whole digits whole
      · have same : d.pointed = d := if_neg whole
        rw [if_neg whole, String.append_empty, same]
        by_cases inside : 0 < ((Nat.toDigits 10 d.digits).length : Int) + d.exponent
        · exact Decimal.denotes_between digits (Int.not_le.mp whole) inside
        · exact Decimal.denotes_behind (Int.not_le.mp whole) inside
    · exact Decimal.denotes_scientific digits

/-- Every data text is a number literal. -/
theorem isLiteral_of_dataText? {format : Format} {range : PositionalRange} {datum : Datum}
    {text : String} (written : dataText? format range datum = some text)
    : IsLiteral text := by
  cases datum with
  | nan => cases written
  | infinite negative => cases written
  | finite negative significand exponent =>
      obtain ⟨literal, _, chars, _⟩ := writes_of_dataText? written
      exact ⟨literal, chars⟩

end EntityStore.Number
