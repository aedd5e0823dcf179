import EntityStore.Proofs.Query.Sorting
import EntityStore.Proofs.Value.Order

/-! The order that sort keys give to records.
Records are compared by values of one storage type. That is a preorder as long as no key reaches a value
that is not a number beside two different numbers: such a value counts as equal to both of them.
-/

namespace EntityStore

open Number Std

-----------------------------------------------------------------------------------------
-- Values of one type
-----------------------------------------------------------------------------------------

namespace Value

/-- The value is a floating point number in form only. -/
def IsNaN (value : Value) : Prop :=
  value.floating? = some .nan

instance : DecidablePred IsNaN := fun value => inferInstanceAs (Decidable (value.floating? = some .nan))

variable {a b c : Value} {type : AttributeType}

theorem IsNaN.compare?_eq_none (nan : a.IsNaN) (b : Value) : a.compare? b = none := by
  rw [compare?_eq_place nan, place?, numeric?_of_floating? nan]
  rfl

/-- Values of one type have an order unless one of them is not a number. -/
theorem isNaN_of_unordered (left : a.attributeType? = some type) (right : b.attributeType? = some type)
    (unordered : a.compare? b = none)
    : a.IsNaN ∨ b.IsNaN := by
  have unplaced {x : Datum} (absent : x.place? = none) : x = .nan := by
    cases x with
    | nan => rfl
    | _ => cases absent
  have floating {x y : Datum} (left : a.floating? = some x) (right : b.floating? = some y)
      : a.IsNaN ∨ b.IsNaN := by
    rw [compare?_eq_numeric left, numeric?_of_floating? right, Option.bind_some,
      Datum.compare?_eq] at unordered
    cases place : x.place? with
    | none => exact Or.inl (left.trans (congrArg some (unplaced place)))
    | some p =>
        cases place' : y.place? with
        | none => exact Or.inr (right.trans (congrArg some (unplaced place')))
        | some q => simp [place, place'] at unordered
  cases a <;> cases left <;> cases b <;> cases right
  case float.refl.float.refl => exact floating rfl rfl
  case double.refl.double.refl => exact floating rfl rfl
  all_goals cases unordered

/-- No type has both whole numbers and floating point numbers. -/
theorem not_blurred_of_type (first : a.attributeType? = some type)
    (second : b.attributeType? = some type) (third : c.attributeType? = some type)
    : ¬ Blurred a b c := by
  have apart {number : Value} {i j : Int64} (blurs : Blurs number i j)
      : number.attributeType? ≠ some .integer := by
    obtain ⟨_, x, floating, _⟩ := blurs
    cases number with
    | float x => simp [attributeType?]
    | double x => simp [attributeType?]
    | _ => cases floating
  intro blurred
  cases blurred with
  | first blurs => exact apart blurs (first.trans second.symm)
  | middle blurs => exact apart blurs (second.trans first.symm)
  | last blurs => exact apart blurs (third.trans first.symm)
  | head _ => cases first
  | tail _ _ _ _ => cases first

end Value

-----------------------------------------------------------------------------------------
-- Records
-----------------------------------------------------------------------------------------

variable {source : RecordSource} {records : List Record}

/-- The first values that a key reaches from records are absent or of one storage type. -/
def OfType (source : RecordSource) (key : String) (type : AttributeType) (records : List Record) : Prop :=
  ∀ record ∈ records, ∀ value ∈ firstReached? source key record, value.attributeType? = some type

instance (source : RecordSource) (key : String) (type : AttributeType) (records : List Record)
    : Decidable (OfType source key type records) :=
  inferInstanceAs (Decidable (∀ record ∈ records, ∀ value ∈ firstReached? source key record, _))

/-- A key reaches from one record what is not a number, and different values from two other ones. -/
def Blinded (source : RecordSource) (key : String) (records : List Record) : Prop :=
  ∃ blind ∈ records, ∃ low ∈ records, ∃ high ∈ records,
    ∃ nan ∈ firstReached? source key blind,
      ∃ a ∈ firstReached? source key low,
        ∃ b ∈ firstReached? source key high, nan.IsNaN ∧ a.compare? b = some .lt

instance (source : RecordSource) (key : String) (records : List Record)
    : Decidable (Blinded source key records) :=
  inferInstanceAs (Decidable (∃ blind ∈ records, ∃ low ∈ records, ∃ high ∈ records, _))

namespace SortDescriptor

theorem compareValues_swap (x y : Option Value) : compareValues y x = (compareValues x y).swap := by
  cases x <;> cases y <;> simp only [compareValues, Ordering.swap]
  next a b =>
    rw [Value.compare?_swap a b]
    rcases a.compare? b with _ | _ | _ | _ <;> rfl

/-- Values of one type are taken for equal only where they are, or where one of them is not a number. -/
theorem atMost_of_isLE {a b : Value} {type : AttributeType} (left : a.attributeType? = some type)
    (right : b.attributeType? = some type) (number : ¬ a.IsNaN) (number' : ¬ b.IsNaN)
    (order : (compareValues (some a) (some b)).isLE = true)
    : a.AtMost b := by
  cases found : a.compare? b with
  | none => exact ((Value.isNaN_of_unordered left right found).elim number number').elim
  | some compared =>
      rw [compareValues, found] at order
      exact ⟨compared, found, order⟩

/-- Only a value that is not a number keeps the order from being passed on. -/
theorem isNaN_of_behind {a b c : Value} {type : AttributeType} (first : a.attributeType? = some type)
    (second : b.attributeType? = some type) (third : c.attributeType? = some type)
    (left : (compareValues (some a) (some b)).isLE = true)
    (right : (compareValues (some b) (some c)).isLE = true)
    (behind : ¬ (compareValues (some a) (some c)).isLE = true)
    : b.IsNaN ∧ c.compare? a = some .lt := by
  have less : c.compare? a = some .lt := by
    rw [compareValues] at behind
    rw [Value.compare?_swap a c]
    rcases found : a.compare? c with _ | _ | _ | _
    case some.gt => rfl
    all_goals exact absurd (by rw [found]; rfl) behind
  refine ⟨?_, less⟩
  by_contra number
  have low : ¬ c.IsNaN := fun nan => by
    rw [nan.compare?_eq_none] at less
    cases less
  have high : ¬ a.IsNaN := fun nan => by
    rw [Value.compare?_swap a c, nan.compare?_eq_none] at less
    cases less
  have passes := Value.passes_of_not_blurred a b c (Value.not_blurred_of_type first second third)
  exact Value.not_atMost_of_lt less
    (passes (atMost_of_isLE first second high number left) (atMost_of_isLE second third number low right))

/-- The order of two records by the first values that a key reaches. -/
def keyOrder (source : RecordSource) (key : String) (left right : Record) : Ordering :=
  compareValues (firstReached? source key left) (firstReached? source key right)

theorem compare_eq (source : RecordSource) (descriptor : SortDescriptor)
    : descriptor.compare source
      = if descriptor.ascending then keyOrder source descriptor.key
        else fun left right => (keyOrder source descriptor.key left right).swap := by
  funext left right
  unfold compare
  split <;> rfl

theorem keyOrder_swap (source : RecordSource) (key : String) (left right : Record)
    : keyOrder source key right left = (keyOrder source key left right).swap :=
  compareValues_swap _ _

instance (source : RecordSource) (key : String) : OrientedCmp (keyOrder source key) :=
  ⟨keyOrder_swap source key _ _⟩

/-- A key gives a preorder to records of one type that are not blinded. -/
theorem keyOrder_preorder {key : String} {type : AttributeType} (typed : OfType source key type records)
    (clear : ¬ Blinded source key records)
    : PreorderOn (keyOrder source key) records := by
  refine ⟨fun a _ => ReflCmp.compare_self, fun a _ b _ => keyOrder_swap source key a b, ?_⟩
  intro a member b member' c member'' left right
  unfold keyOrder at left right ⊢
  cases first : firstReached? source key a with
  | none => cases firstReached? source key c <;> rfl
  | some x =>
      cases second : firstReached? source key b with
      | none => simp [first, second, compareValues] at left
      | some y =>
          cases third : firstReached? source key c with
          | none => simp [second, third, compareValues] at right
          | some z =>
              rw [first, second] at left
              rw [second, third] at right
              by_contra behind
              obtain ⟨nan, less⟩ :=
                isNaN_of_behind (typed a member x first) (typed b member' y second)
                  (typed c member'' z third) left right behind
              exact clear
                ⟨b, member', c, member'', a, member, y, second, z, third, x, first, nan, less⟩

/-- A blinded key gives an order that is not passed on. -/
theorem not_keyOrder_preorder {key : String} (blinded : Blinded source key records)
    : ¬ PreorderOn (keyOrder source key) records := by
  obtain ⟨blind, member, low, member', high, member'', nan, found, a, found', b, found'', isNaN, less⟩ :=
    blinded
  intro preorder
  have alike (record : Record) {value : Value} (reached : firstReached? source key record = some value)
      : keyOrder source key blind record = .eq := by
    rw [keyOrder, Option.mem_def.mp found, reached, compareValues, isNaN.compare?_eq_none, Option.getD_none]
  have before : keyOrder source key low high = .lt := by
    rw [keyOrder, Option.mem_def.mp found', Option.mem_def.mp found'', compareValues, less, Option.getD_some]
  have there : (keyOrder source key high blind).isLE = true := by
    rw [keyOrder_swap, alike high found'']
    rfl
  have back := preorder.trans high member'' blind member low member' there (by rw [alike low found']; rfl)
  rw [keyOrder_swap, before] at back
  cases back

/-- The direction makes no difference to whether an order is passed on. -/
theorem preorder_iff_keyOrder (descriptor : SortDescriptor)
    : PreorderOn (descriptor.compare source) records
      ↔ PreorderOn (keyOrder source descriptor.key) records := by
  rw [compare_eq]
  split
  · rfl
  · exact ⟨fun preorder => by simpa only [Ordering.swap_swap] using preorder.reverse,
      fun preorder => preorder.reverse⟩

theorem preorder_iff_not_blinded {type : AttributeType} (descriptor : SortDescriptor)
    (typed : OfType source descriptor.key type records)
    : PreorderOn (descriptor.compare source) records ↔ ¬ Blinded source descriptor.key records := by
  rw [preorder_iff_keyOrder]
  exact ⟨fun preorder blinded => not_keyOrder_preorder blinded preorder, keyOrder_preorder typed⟩

end SortDescriptor

/-- Keys that each give a preorder give one together. -/
theorem preorder_compareBy {sort : List SortDescriptor}
    (each : ∀ descriptor ∈ sort, PreorderOn (descriptor.compare source) records)
    : PreorderOn (compareBy source sort) records := by
  induction sort with
  | nil => exact .const records
  | cons descriptor rest ih =>
      obtain ⟨first, others⟩ := List.forall_mem_cons.mp each
      exact first.andThen (ih others)

theorem compareBy_swap (source : RecordSource) (sort : List SortDescriptor) (left right : Record)
    : compareBy source sort right left = (compareBy source sort left right).swap := by
  induction sort with
  | nil => rfl
  | cons descriptor rest ih =>
      have swap : descriptor.compare source right left = (descriptor.compare source left right).swap := by
        rw [SortDescriptor.compare_eq]
        split
        · exact SortDescriptor.keyOrder_swap source descriptor.key left right
        · exact congrArg Ordering.swap (SortDescriptor.keyOrder_swap source descriptor.key left right)
      rw [compareBy, compareBy, swap, ih, Ordering.swap_then]

instance (source : RecordSource) (sort : List SortDescriptor) : OrientedCmp (compareBy source sort) :=
  ⟨compareBy_swap source sort _ _⟩

/-- The order of sort keys is reflexive and turns around with the records. Where the values of each key have
one storage type, a key passes the order on exactly if it does not reach what is not a number beside two
different numbers, and any list of such keys passes it on.
-/
theorem compareBy_preorder_iff (source : RecordSource) (sort : List SortDescriptor) (records : List Record)
    (typed : ∀ descriptor ∈ sort, ∃ type, OfType source descriptor.key type records)
    : (∀ a b,
        compareBy source sort a a = .eq
        ∧ compareBy source sort b a = (compareBy source sort a b).swap)
      ∧ (∀ descriptor ∈ sort,
          PreorderOn (compareBy source [descriptor]) records
          ↔ ¬ Blinded source descriptor.key records)
      ∧ ((∀ descriptor ∈ sort, ¬ Blinded source descriptor.key records)
          → PreorderOn (compareBy source sort) records) := by
  have each (descriptor : SortDescriptor) (member : descriptor ∈ sort)
      : PreorderOn (descriptor.compare source) records ↔ ¬ Blinded source descriptor.key records := by
    obtain ⟨type, given⟩ := typed descriptor member
    exact descriptor.preorder_iff_not_blinded given
  refine ⟨fun a b => ⟨ReflCmp.compare_self, compareBy_swap source sort a b⟩, ?_, ?_⟩
  · intro descriptor member
    have single : compareBy source [descriptor] = descriptor.compare source := by
      funext left right
      rw [compareBy, compareBy, Ordering.then_eq]
    rw [single]
    exact each descriptor member
  · exact fun clear => preorder_compareBy (fun descriptor member =>
      (each descriptor member).mpr (clear descriptor member))

namespace Zoo

/-- An animal with a name and a weight, given by the bits of the weight. -/
private def weighed (number : UInt64) (name : String) (weight : Option UInt32) : Record :=
  ((Record.new ⟨number⟩ "Animal").setValue "name" (some (.string name))).setValue "weight"
    (weight.map (fun bits => .float ⟨bits⟩))

/-- Zeros of both signs, an infinity and a weight that is not known have their places beside each other. -/
theorem weights_preorder
    : PreorderOn
        (compareBy (fun _ => none)
          [{ key := "weight", ascending := false }, { key := "name", ascending := true }])
        [weighed 1 "Ada" (some 0x80000000), weighed 2 "Bo" (some 0), weighed 3 "Cy" (some 0x7f800000),
          weighed 4 "Di" none] :=
  (compareBy_preorder_iff _ _ _
    (List.forall_mem_cons.mpr
      ⟨⟨.float, by decide +kernel⟩, List.forall_mem_singleton.mpr ⟨.string, by decide +kernel⟩⟩)).2.2
    (by decide +kernel)

/-- A weight that is not a number counts as equal to both of its neighbours, and sorting by insertion leaves
the greater weight before the smaller one.
-/
theorem weightless_between
    : let records := [weighed 1 "Ada" (some 0x40000000), weighed 2 "Bo" (some 0x7fc00000),
        weighed 3 "Cy" (some 0x3f800000)]
      let sort : List SortDescriptor := [{ key := "weight", ascending := true }]
      OfType (fun _ => none) "weight" .float records
      ∧ ¬ PreorderOn (compareBy (fun _ => none) sort) records
      ∧ sortRecords .insertion (fun _ => none) sort records = .ok records := by
  intro records sort
  refine ⟨by decide +kernel, fun preorder => ?_, by decide +kernel⟩
  have passed := preorder.trans _ (.head _) _ (.tail _ (.head _)) _ (.tail _ (.tail _ (.head _)))
    (by decide +kernel) (by decide +kernel)
  exact absurd passed (by decide +kernel)

end Zoo

end EntityStore
