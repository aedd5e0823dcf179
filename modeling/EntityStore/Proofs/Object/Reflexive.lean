import EntityStore.Entity.Object

/-! Objects that equal themselves.
A floating point number equals itself unless it stands for no number, and such a number equals nothing. An
object that holds one therefore equals no object, and every other object equals itself.
-/

namespace EntityStore

-----------------------------------------------------------------------------------------
-- Numbers and contents
-----------------------------------------------------------------------------------------

/-- A number has the same value as itself exactly where it has one. -/
theorem Number.Datum.sameValue_self (x : Number.Datum)
    : x.sameValue x = decide (x ≠ .nan) := by
  cases x with
  | nan => rfl
  | infinite negative => cases negative <;> rfl
  | finite negative significand exponent => simp [sameValue, compare?]

/-- What has the same value as another number has one. -/
theorem Number.Datum.ne_nan_of_sameValue {x y : Number.Datum} (same : x.sameValue y = true)
    : x ≠ .nan := by
  rintro rfl
  cases same

/-- The scalar is a floating point number that stands for no number. -/
def Scalar.isNaN : Scalar → Bool
  | float x => x.datum = .nan
  | double x => x.datum = .nan
  | _ => false

theorem Scalar.sameValue_self (scalar : Scalar) : scalar.sameValue scalar = !scalar.isNaN := by
  cases scalar with
  | float x => rw [sameValue, Number.Datum.sameValue_self, isNaN, decide_not]
  | double x => rw [sameValue, Number.Datum.sameValue_self, isNaN, decide_not]
  | _ => simp [sameValue, isNaN]

theorem Scalar.isNaN_of_sameValue {a b : Scalar} (same : a.sameValue b = true)
    : a.isNaN = false := by
  cases a with
  | float x =>
      cases b with
      | float y => exact decide_eq_false (Number.Datum.ne_nan_of_sameValue same)
      | _ => simp [sameValue] at same
  | double x =>
      cases b with
      | double y => exact decide_eq_false (Number.Datum.ne_nan_of_sameValue same)
      | _ => simp [sameValue] at same
  | _ => rfl

namespace Shaped

variable {α : Type} {same : α → α → Bool}

private theorem agreeAll_self (items : List α)
    : agree.agreeAll same items items = items.all (fun item => same item item) := by
  induction items with
  | nil => rfl
  | cons item items ih => rw [agree.agreeAll, ih, List.all_cons]

/-- A content agrees with itself where each of its items does. -/
theorem agree_self (content : Shaped α)
    : content.agree same content = content.items.all (fun item => same item item) := by
  cases content with
  | one item => simp [agree, items]
  | option item? => cases item? <;> simp [agree, items]
  | many list => exact agreeAll_self list
  | optionMany list? =>
      cases list? with
      | none => rfl
      | some list => exact agreeAll_self list

private theorem exists_of_agreeAll {as bs : List α} (agrees : agree.agreeAll same as bs = true)
    : ∀ a ∈ as, ∃ b, same a b = true := by
  induction as generalizing bs with
  | nil => exact fun _ listed => nomatch listed
  | cons a as ih =>
      cases bs with
      | nil => cases agrees
      | cons b bs =>
          obtain ⟨first, rest⟩ := Bool.and_eq_true_iff.mp agrees
          exact List.forall_mem_cons.mpr ⟨⟨b, first⟩, ih rest⟩

/-- Each item of a content that agrees with another one agrees with something. -/
theorem exists_of_agree {left right : Shaped α} (agrees : left.agree same right = true)
    : ∀ a ∈ left.items, ∃ b, same a b = true := by
  intro a listed
  unfold agree at agrees
  split at agrees
  · next own other =>
      obtain rfl := List.mem_singleton.mp listed
      exact ⟨other, agrees⟩
  · split at agrees
    · next own other =>
        obtain rfl := List.mem_singleton.mp listed
        exact ⟨other, agrees⟩
    · contradiction
    · cases agrees
  · exact exists_of_agreeAll agrees a listed
  · split at agrees
    · exact exists_of_agreeAll agrees a listed
    · contradiction
    · cases agrees
  · cases agrees

end Shaped

-----------------------------------------------------------------------------------------
-- Objects
-----------------------------------------------------------------------------------------

namespace Object

mutual
/-- There is a floating point number in the object that stands for no number. -/
def holdsNaN : Object → Bool
  | mk contents => contentsHoldNaN contents

/-- There is one in the contents. -/
def contentsHoldNaN : List Content → Bool
  | [] => false
  | content :: contents => contentHoldsNaN content || contentsHoldNaN contents

/-- There is one in the content. -/
def contentHoldsNaN : Content → Bool
  | .scalar content => content.items.any Scalar.isNaN
  | .textual _ => false
  | .members _ objects => anyHoldsNaN objects

/-- There is one in the objects. -/
def anyHoldsNaN : List Object → Bool
  | [] => false
  | object :: objects => holdsNaN object || anyHoldsNaN objects
end

mutual
/-- An object equals itself exactly where all its numbers stand for one. -/
theorem equals_self (object : Object) : equals object object = !object.holdsNaN := by
  cases object with
  | mk contents => rw [equals, holdsNaN, contentsEqual_self contents]
termination_by structural object

theorem contentsEqual_self (contents : List Content)
    : contentsEqual contents contents = !contentsHoldNaN contents := by
  cases contents with
  | nil => simp [contentsEqual, contentsHoldNaN]
  | cons content contents =>
      rw [contentsEqual, contentsHoldNaN, contentEqual_self content, contentsEqual_self contents,
        Bool.not_or]
termination_by structural contents

theorem contentEqual_self (content : Content)
    : contentEqual content content = !contentHoldsNaN content := by
  cases content with
  | scalar content =>
      rw [contentEqual, contentHoldsNaN, Shaped.agree_self, List.not_any_eq_all_not]
      exact congrArg content.items.all (funext Scalar.sameValue_self)
  | textual content =>
      rw [contentEqual, contentHoldsNaN, Shaped.agree_self]
      simp
  | members present objects =>
      rw [contentEqual, contentHoldsNaN, allEqual_self objects, decide_eq_true rfl, Bool.true_and]
termination_by structural content

theorem allEqual_self (objects : List Object)
    : allEqual objects objects = !anyHoldsNaN objects := by
  cases objects with
  | nil => simp [allEqual, anyHoldsNaN]
  | cons object objects =>
      rw [allEqual, anyHoldsNaN, equals_self object, allEqual_self objects, Bool.not_or]
termination_by structural objects
end

mutual
/-- In an object that equals another one all numbers stand for one. -/
theorem holdsNaN_of_equals (a b : Object) (same : equals a b = true) : a.holdsNaN = false := by
  cases a with
  | mk as =>
      cases b with
      | mk bs =>
          rw [equals] at same
          rw [holdsNaN, contentsHoldNaN_of_equal as bs same]
termination_by structural a

theorem contentsHoldNaN_of_equal (as bs : List Content) (same : contentsEqual as bs = true)
    : contentsHoldNaN as = false := by
  match as, bs, same with
  | [], _, _ => rfl
  | _ :: _, [], same => simp [contentsEqual] at same
  | a :: as, b :: bs, same =>
      rw [contentsEqual] at same
      obtain ⟨first, rest⟩ := Bool.and_eq_true_iff.mp same
      rw [contentsHoldNaN, contentHoldsNaN_of_equal a b first, contentsHoldNaN_of_equal as bs rest,
        Bool.or_false]
termination_by structural as

theorem contentHoldsNaN_of_equal (a b : Content) (same : contentEqual a b = true)
    : contentHoldsNaN a = false := by
  cases a with
  | scalar content =>
      cases b with
      | scalar other =>
          rw [contentEqual] at same
          refine List.any_eq_false.mpr (fun scalar listed => ?_)
          obtain ⟨number, agrees⟩ := Shaped.exists_of_agree same scalar listed
          exact Bool.eq_false_iff.mp (Scalar.isNaN_of_sameValue agrees)
      | _ => simp [contentEqual] at same
  | textual content => rfl
  | members present objects =>
      cases b with
      | members present' others =>
          rw [contentEqual] at same
          exact anyHoldsNaN_of_equal objects others (Bool.and_eq_true_iff.mp same).2
      | _ => simp [contentEqual] at same
termination_by structural a

/-- In objects that equal others one by one all numbers stand for one. -/
theorem anyHoldsNaN_of_equal (as bs : List Object) (same : allEqual as bs = true)
    : anyHoldsNaN as = false := by
  match as, bs, same with
  | [], _, _ => rfl
  | _ :: _, [], same => simp [allEqual] at same
  | a :: as, b :: bs, same =>
      rw [allEqual] at same
      obtain ⟨first, rest⟩ := Bool.and_eq_true_iff.mp same
      rw [anyHoldsNaN, holdsNaN_of_equals a b first, anyHoldsNaN_of_equal as bs rest, Bool.or_false]
termination_by structural as
end

end Object

/-- An animal of some weight with some toys in a cage. -/
def Zoo.animalOf (tag : String) (weight : Number.Single) (toys : List String) : Object :=
  let zero : Content := .scalar (.one (.integer 0))
  .mk
    [.scalar (.one (.string tag)), zero, zero, zero, zero, zero,
      .scalar (.one (.float weight)),
      .scalar (.option none),
      .scalar (.one ScalarType.timestamp.default),
      .scalar (.one (.bool true)),
      .scalar (.many []),
      .scalar (.many []),
      .scalar (.optionMany none),
      .textual (.one (.integer 7)),
      .textual (.option none),
      .textual (.many []),
      .textual (.optionMany none),
      zero,
      .members true [.mk [.scalar (.one (.string "")), zero]],
      .members true [],
      .members true
        (toys.map (fun toy =>
          .mk [.scalar (.one (.string toy)), .scalar (.one (.string "")), .members true []])),
      .members false []]

/-- An animal whose weight is no number is not itself. -/
example : (Zoo.animalOf "a" ⟨0x7fc00000⟩ []).equals (Zoo.animalOf "a" ⟨0x7fc00000⟩ []) = false := by
  decide +kernel

end EntityStore
