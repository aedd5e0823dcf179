import EntityStore.Field.Scalar
import EntityStore.Field.Textual

/-! Equality of contents where it is exact.
Contents agree when their items do. Only floating point numbers can agree without being the same, so
contents of every other type agree exactly when they are the same.
-/

namespace EntityStore

namespace Shaped

variable {α : Type} {same : α → α → Bool}

private theorem agreeAll_iff (as : List α)
    (exact : ∀ a ∈ as, ∀ b, same a b = true ↔ a = b) (bs : List α)
    : agree.agreeAll same as bs = true ↔ as = bs := by
  induction as generalizing bs with
  | nil => cases bs <;> simp [agree.agreeAll]
  | cons a as ih =>
      cases bs with
      | nil => simp [agree.agreeAll]
      | cons b bs =>
          have rest := ih (fun x inside => exact x (List.mem_cons_of_mem a inside)) bs
          simp [agree.agreeAll, exact a List.mem_cons_self, rest]

/-- Contents agree under a test that tells the items of the first one apart exactly when they are the
same.
-/
theorem agree_iff {a b : Shaped α} (exact : ∀ x ∈ a.items, ∀ y, same x y = true ↔ x = y)
    : a.agree same b = true ↔ a = b := by
  cases a with
  | one x =>
      cases b with
      | one y => simp [agree, exact x (by simp [items])]
      | _ => simp [agree]
  | option x =>
      cases b with
      | option y =>
          cases x with
          | none => cases y <;> simp [agree]
          | some x =>
              cases y with
              | none => simp [agree]
              | some y => simp [agree, exact x (by simp [items])]
      | _ => simp [agree]
  | many xs =>
      cases b with
      | many ys => simpa [agree] using agreeAll_iff xs exact ys
      | _ => simp [agree]
  | optionMany xs =>
      cases b with
      | optionMany ys =>
          cases xs with
          | none => cases ys <;> simp [agree]
          | some xs =>
              cases ys with
              | none => simp [agree]
              | some ys => simpa [agree] using agreeAll_iff xs exact ys
      | _ => simp [agree]

end Shaped

/-- Scalars of a type without floating point numbers are the same value only if they are the same. -/
theorem ScalarType.sameValue_iff {type : ScalarType} {a b : Scalar}
    (single : type ≠ .float32) (double : type ≠ .float64) (admits : type.admits a = true)
    : a.sameValue b = true ↔ a = b := by
  cases a with
  | float x => exact absurd (of_decide_eq_true admits) single
  | double x => exact absurd (of_decide_eq_true admits) double
  | _ => simp [Scalar.sameValue]

/-- Contents of a scalar type without floating point numbers agree only if they are the same. -/
theorem ScalarType.agree_iff {type : ScalarType} {a b : Shaped Scalar}
    (single : type ≠ .float32) (double : type ≠ .float64)
    (admits : a.items.all type.admits = true)
    : a.agree Scalar.sameValue b = true ↔ a = b := by
  refine Shaped.agree_iff (fun x inside y => ?_)
  exact type.sameValue_iff single double (List.all_eq_true.mp admits x inside)

/-- Contents of a textual type agree only if they are the same. -/
theorem Textual.agree_iff {a b : Shaped Textual}
    : a.agree (fun x y => x = y) b = true ↔ a = b :=
  Shaped.agree_iff (fun _ _ _ => decide_eq_true_iff)

end EntityStore
