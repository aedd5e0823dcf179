import EntityStore.Entity.Object

/-! Equality of objects.
Floating point numbers are equal when they stand for the same number, so zeros of both signs are equal
and what stands for no number equals nothing. Equality is symmetric and transitive all the same, on
numbers, on contents and on whole objects.
-/

namespace EntityStore

/-- A test is symmetric and transitive. Nothing need pass it together with itself. -/
structure Equates {α : Type} (same : α → α → Bool) : Prop where
  symm : ∀ {a b}, same a b = true → same b a = true
  trans : ∀ {a b c}, same a b = true → same b c = true → same a c = true

-----------------------------------------------------------------------------------------
-- Numbers
-----------------------------------------------------------------------------------------

namespace Number.Datum

/-- What a number stands for: an infinity of a sign, or a multiple of the finest unit. -/
def stands? : Datum → Option (Bool ⊕ Int)
  | nan => none
  | infinite negative => some (.inl negative)
  | finite negative significand exponent => some (.inr (units negative significand exponent))

theorem sameValue_iff {a b : Datum}
    : a.sameValue b = true ↔ ∃ value, a.stands? = some value ∧ b.stands? = some value := by
  cases a with
  | nan => simp [sameValue, compare?, stands?]
  | infinite negative =>
      cases b with
      | infinite other =>
          cases negative <;> cases other <;> simp [sameValue, compare?, stands?]
      | _ => cases negative <;> simp [sameValue, compare?, stands?]
  | finite s m e =>
      cases b with
      | infinite negative => cases negative <;> simp [sameValue, compare?, stands?]
      | finite s' m' e' => simp [sameValue, compare?, stands?, @eq_comm _ (units s' m' e')]
      | _ => simp [sameValue, compare?, stands?]

theorem equates : Equates sameValue := by
  constructor
  · intro a b same
    obtain ⟨value, left, right⟩ := sameValue_iff.mp same
    exact sameValue_iff.mpr ⟨value, right, left⟩
  · intro a b c same same'
    obtain ⟨value, left, right⟩ := sameValue_iff.mp same
    obtain ⟨value', left', right'⟩ := sameValue_iff.mp same'
    rw [right, Option.some.injEq] at left'
    exact sameValue_iff.mpr ⟨value, left, left' ▸ right'⟩

end Number.Datum

theorem Scalar.equates : Equates Scalar.sameValue := by
  constructor
  · intro a b same
    cases a <;> cases b <;> simp only [sameValue, decide_eq_true_eq, reduceCtorEq] at same ⊢
    case float.float => exact Number.Datum.equates.symm same
    case double.double => exact Number.Datum.equates.symm same
    all_goals exact same.symm
  · intro a b c same same'
    cases a <;> cases b <;> simp only [sameValue, decide_eq_true_eq, reduceCtorEq] at same <;>
      cases c <;> simp only [sameValue, decide_eq_true_eq, reduceCtorEq] at same' ⊢
    case float.float.float => exact Number.Datum.equates.trans same same'
    case double.double.double => exact Number.Datum.equates.trans same same'
    all_goals exact same.trans same'

-----------------------------------------------------------------------------------------
-- Contents
-----------------------------------------------------------------------------------------

namespace Shaped

variable {α : Type} {same : α → α → Bool}

private theorem agreeAll_symm (equates : Equates same) {as bs : List α}
    (agrees : agree.agreeAll same as bs = true)
    : agree.agreeAll same bs as = true := by
  induction as generalizing bs with
  | nil => cases bs <;> simp_all [agree.agreeAll]
  | cons a as ih =>
      cases bs with
      | nil => cases agrees
      | cons b bs =>
          obtain ⟨first, rest⟩ := Bool.and_eq_true_iff.mp agrees
          exact Bool.and_eq_true_iff.mpr ⟨equates.symm first, ih rest⟩

private theorem agreeAll_trans (equates : Equates same) {as bs cs : List α}
    (agrees : agree.agreeAll same as bs = true) (agrees' : agree.agreeAll same bs cs = true)
    : agree.agreeAll same as cs = true := by
  induction as generalizing bs cs with
  | nil => cases bs <;> simp_all [agree.agreeAll]
  | cons a as ih =>
      cases bs with
      | nil => cases agrees
      | cons b bs =>
          cases cs with
          | nil => cases agrees'
          | cons c cs =>
              obtain ⟨first, rest⟩ := Bool.and_eq_true_iff.mp agrees
              obtain ⟨first', rest'⟩ := Bool.and_eq_true_iff.mp agrees'
              exact Bool.and_eq_true_iff.mpr ⟨equates.trans first first', ih rest rest'⟩

/-- Agreement of contents is an equality where that of their items is one. -/
theorem equates (equates : Equates same) : Equates (agree same) := by
  constructor
  · intro a b agrees
    match a, b, agrees with
    | one _, one _, agrees => exact equates.symm agrees
    | option none, option none, _ => rfl
    | option (some _), option (some _), agrees => exact equates.symm agrees
    | many _, many _, agrees => exact agreeAll_symm equates agrees
    | optionMany none, optionMany none, _ => rfl
    | optionMany (some _), optionMany (some _), agrees => exact agreeAll_symm equates agrees
  · intro a b c agrees agrees'
    match a, b, c, agrees, agrees' with
    | one _, one _, one _, agrees, agrees' => exact equates.trans agrees agrees'
    | option none, option none, option none, _, _ => rfl
    | option (some _), option (some _), option (some _), agrees, agrees' =>
        exact equates.trans agrees agrees'
    | many _, many _, many _, agrees, agrees' => exact agreeAll_trans equates agrees agrees'
    | optionMany none, optionMany none, optionMany none, _, _ => rfl
    | optionMany (some _), optionMany (some _), optionMany (some _), agrees, agrees' =>
        exact agreeAll_trans equates agrees agrees'

end Shaped

-----------------------------------------------------------------------------------------
-- Objects
-----------------------------------------------------------------------------------------

namespace Object

private theorem textual_equates : Equates (fun a b : Textual => decide (a = b)) :=
  ⟨fun same => decide_eq_true (of_decide_eq_true same).symm,
    fun same same' => decide_eq_true ((of_decide_eq_true same).trans (of_decide_eq_true same'))⟩

mutual
theorem equals_symm (a b : Object) (same : equals a b = true) : equals b a = true := by
  cases a with
  | mk as =>
      cases b with
      | mk bs =>
          rw [equals] at same ⊢
          exact contentsEqual_symm as bs same
termination_by structural a

theorem contentsEqual_symm (as bs : List Content) (same : contentsEqual as bs = true)
    : contentsEqual bs as = true := by
  match as, bs, same with
  | [], [], same => exact same
  | [], _ :: _, same => simp [contentsEqual] at same
  | _ :: _, [], same => simp [contentsEqual] at same
  | a :: as, b :: bs, same =>
      rw [contentsEqual, Bool.and_eq_true_iff] at same ⊢
      exact ⟨contentEqual_symm a b same.1, contentsEqual_symm as bs same.2⟩
termination_by structural as

theorem contentEqual_symm (a b : Content) (same : contentEqual a b = true)
    : contentEqual b a = true := by
  cases a with
  | scalar content =>
      cases b with
      | scalar other =>
          rw [contentEqual] at same ⊢
          exact (Shaped.equates Scalar.equates).symm same
      | _ => simp [contentEqual] at same
  | textual content =>
      cases b with
      | textual other =>
          rw [contentEqual] at same ⊢
          exact (Shaped.equates textual_equates).symm same
      | _ => simp [contentEqual] at same
  | members present objects =>
      cases b with
      | members present' others =>
          rw [contentEqual, Bool.and_eq_true_iff, decide_eq_true_iff] at same ⊢
          exact ⟨same.1.symm, allEqual_symm objects others same.2⟩
      | _ => simp [contentEqual] at same
termination_by structural a

theorem allEqual_symm (as bs : List Object) (same : allEqual as bs = true)
    : allEqual bs as = true := by
  match as, bs, same with
  | [], [], same => exact same
  | [], _ :: _, same => simp [allEqual] at same
  | _ :: _, [], same => simp [allEqual] at same
  | a :: as, b :: bs, same =>
      rw [allEqual, Bool.and_eq_true_iff] at same ⊢
      exact ⟨equals_symm a b same.1, allEqual_symm as bs same.2⟩
termination_by structural as
end

mutual
theorem equals_trans (a b c : Object) (same : equals a b = true) (same' : equals b c = true)
    : equals a c = true := by
  cases a with
  | mk as =>
      cases b with
      | mk bs =>
          cases c with
          | mk cs =>
              rw [equals] at same same' ⊢
              exact contentsEqual_trans as bs cs same same'
termination_by structural a

theorem contentsEqual_trans (as bs cs : List Content) (same : contentsEqual as bs = true)
    (same' : contentsEqual bs cs = true)
    : contentsEqual as cs = true := by
  match as, bs, cs, same, same' with
  | [], [], _, _, same' => exact same'
  | [], _ :: _, _, same, _ => simp [contentsEqual] at same
  | _ :: _, [], _, same, _ => simp [contentsEqual] at same
  | _ :: _, _ :: _, [], _, same' => simp [contentsEqual] at same'
  | a :: as, b :: bs, c :: cs, same, same' =>
      rw [contentsEqual, Bool.and_eq_true_iff] at same same' ⊢
      exact ⟨contentEqual_trans a b c same.1 same'.1, contentsEqual_trans as bs cs same.2 same'.2⟩
termination_by structural as

theorem contentEqual_trans (a b c : Content) (same : contentEqual a b = true)
    (same' : contentEqual b c = true)
    : contentEqual a c = true := by
  cases a with
  | scalar content =>
      cases b with
      | scalar other =>
          cases c with
          | scalar third =>
              rw [contentEqual] at same same' ⊢
              exact (Shaped.equates Scalar.equates).trans same same'
          | _ => simp [contentEqual] at same'
      | _ => simp [contentEqual] at same
  | textual content =>
      cases b with
      | textual other =>
          cases c with
          | textual third =>
              rw [contentEqual] at same same' ⊢
              exact (Shaped.equates textual_equates).trans same same'
          | _ => simp [contentEqual] at same'
      | _ => simp [contentEqual] at same
  | members present objects =>
      cases b with
      | members _ others =>
          cases c with
          | members _ thirds =>
              rw [contentEqual, Bool.and_eq_true_iff, decide_eq_true_iff] at same same' ⊢
              exact ⟨same.1.trans same'.1, allEqual_trans objects others thirds same.2 same'.2⟩
          | _ => simp [contentEqual] at same'
      | _ => simp [contentEqual] at same
termination_by structural a

theorem allEqual_trans (as bs cs : List Object) (same : allEqual as bs = true)
    (same' : allEqual bs cs = true)
    : allEqual as cs = true := by
  match as, bs, cs, same, same' with
  | [], [], _, _, same' => exact same'
  | [], _ :: _, _, same, _ => simp [allEqual] at same
  | _ :: _, [], _, same, _ => simp [allEqual] at same
  | _ :: _, _ :: _, [], _, same' => simp [allEqual] at same'
  | a :: as, b :: bs, c :: cs, same, same' =>
      rw [allEqual, Bool.and_eq_true_iff] at same same' ⊢
      exact ⟨equals_trans a b c same.1 same'.1, allEqual_trans as bs cs same.2 same'.2⟩
termination_by structural as
end

/-- Equality of objects is symmetric and transitive, whatever numbers they hold. -/
theorem equals_equates : Equates equals :=
  ⟨equals_symm _ _, equals_trans _ _ _⟩

end Object

end EntityStore
