import EntityStore.Field.Textual
import EntityStore.Predicate.Path

/-! Sorting records by keys.
Records are ordered by the first values that the keys reach; an absent value comes before every
other, and values without an order count as equal. Records that no key tells apart keep their
order. Values without an order may keep the order from being passed on, and then sorting may give up
or leave the records in any order.
-/

namespace EntityStore

/-- A key to sort by, with its direction. -/
structure SortDescriptor where
  key : String
  ascending : Bool
  deriving DecidableEq, Repr

namespace SortDescriptor

/-- The order of two first values, where an absent one comes first. -/
def compareValues : Option Value → Option Value → Ordering
  | none, none => .eq
  | none, some _ => .lt
  | some _, none => .gt
  | some a, some b => (a.compare? b).getD .eq

/-- The order of two records by the key. -/
def compare (source : RecordSource) (descriptor : SortDescriptor) (left right : Record)
    : Ordering :=
  let ordering :=
    compareValues (firstReached? source descriptor.key left)
      (firstReached? source descriptor.key right)
  if descriptor.ascending then ordering else ordering.swap

/-- The text of a sort key. -/
def displayText (descriptor : SortDescriptor) : String :=
  descriptor.key ++ if descriptor.ascending then " ASC" else " DESC"

end SortDescriptor

/-- The order of two records by the first key that tells them apart. -/
def compareBy (source : RecordSource) : List SortDescriptor → Record → Record → Ordering
  | [], _, _ => .eq
  | descriptor :: rest, left, right =>
      (descriptor.compare source left right).then (compareBy source rest left right)

-----------------------------------------------------------------------------------------
-- Sorting
-----------------------------------------------------------------------------------------

/-- The order is that of a preorder on some items: every item is in the place of itself, turning
items around turns the order around, and the order is passed on. -/
structure PreorderOn (order : α → α → Ordering) (items : List α) : Prop where
  self : ∀ a ∈ items, order a a = .eq
  swap : ∀ a ∈ items, ∀ b ∈ items, order b a = (order a b).swap
  trans
    : ∀ a ∈ items, ∀ b ∈ items, ∀ c ∈ items,
        (order a b).isLE = true → (order b c).isLE = true → (order a c).isLE = true

/-- Puts an item into a list that is sorted downwards, behind the items that come after it. -/
def insertSorted (order : α → α → Ordering) (item : α) : List α → List α
  | [] => [item]
  | last :: rest =>
      if order item last = .lt then last :: insertSorted order item rest
      else item :: last :: rest

/-- The items in order. Every item moves in front of the ones directly before it that come after
it, so items that are equal keep their order. -/
def stableSort (order : α → α → Ordering) (items : List α) : List α :=
  (items.foldl (fun sorted item => insertSorted order item sorted) []).reverse

theorem insertSorted_perm (order : α → α → Ordering) (item : α) (items : List α)
    : (insertSorted order item items).Perm (item :: items) := by
  induction items with
  | nil => exact .refl _
  | cons last rest ih =>
      rw [insertSorted]
      split
      · exact (ih.cons last).trans (.swap item last rest)
      · exact .refl _

/-- Sorting loses nothing and adds nothing. -/
theorem stableSort_perm (order : α → α → Ordering) (items : List α)
    : (stableSort order items).Perm items := by
  have folded (items sorted : List α)
      : (items.foldl (fun sorted item => insertSorted order item sorted) sorted).Perm
          (items ++ sorted) := by
    induction items generalizing sorted with
    | nil => exact .refl _
    | cons item rest ih =>
        have moved := (insertSorted_perm order item sorted).append_left rest
        exact ((ih _).trans moved).trans List.perm_middle
  have placed := folded items []
  rw [List.append_nil] at placed
  exact (List.reverse_perm _).trans placed

theorem mem_insertSorted {order : α → α → Ordering} {item x : α} (items : List α)
    : x ∈ insertSorted order item items ↔ x = item ∨ x ∈ items := by
  rw [(insertSorted_perm order item items).mem_iff, List.mem_cons]

/-- An item is put into the same place by orders that compare it alike. -/
theorem insertSorted_congr {order order' : α → α → Ordering} {item : α} {sorted : List α}
    (same : ∀ x ∈ sorted, order item x = order' item x)
    : insertSorted order item sorted = insertSorted order' item sorted := by
  induction sorted with
  | nil => rfl
  | cons last rest ih =>
      obtain ⟨first, later⟩ := List.forall_mem_cons.mp same
      rw [insertSorted, insertSorted, first, ih later]

/-- Orders that agree on the items sort them alike.
Witness: what is sorted already are some of the items.
-/
theorem stableSort_congr {order order' : α → α → Ordering} {items : List α}
    (same : ∀ x ∈ items, ∀ y ∈ items, order x y = order' x y)
    : stableSort order items = stableSort order' items := by
  have folds (pool sorted : List α) (part : pool ⊆ items) (inside : sorted ⊆ items)
      : pool.foldl (fun sorted item => insertSorted order item sorted) sorted
        = pool.foldl (fun sorted item => insertSorted order' item sorted) sorted := by
    induction pool generalizing sorted with
    | nil => rfl
    | cons item pool ih =>
        obtain ⟨own, part⟩ := List.cons_subset.mp part
        rw [List.foldl_cons, List.foldl_cons,
          insertSorted_congr (fun x listed => same item own x (inside listed))]
        refine ih _ part (fun x listed => ?_)
        rcases (mem_insertSorted sorted).mp listed with rfl | listed
        · exact own
        · exact inside listed
  exact congrArg List.reverse (folds items [] (List.Subset.refl items) (List.nil_subset items))

/-- A way to sort records. It compares no other records than those it is given. On an order that is
not that of a preorder it may give up, and what it answers need not be in any order; but it never
loses or adds a record. -/
structure Sorting where
  sort? : (Record → Record → Ordering) → List Record → Option (List Record)
  congr
    : (∀ x ∈ records, ∀ y ∈ records, order x y = order' x y)
      → sort? order records = sort? order' records
  perm : sort? order records = some sorted → sorted.Perm records
  stable : PreorderOn order records → sort? order records = some (stableSort order records)

/-- Sorting by insertion, which never gives up. -/
def Sorting.insertion : Sorting where
  sort? order records := some (stableSort order records)
  congr same := congrArg some (stableSort_congr same)
  perm sorts := Option.some.inj sorts ▸ stableSort_perm _ _
  stable _ := rfl

/-- Records in the order of sort keys. Without keys they stay as they are. -/
def sortRecords (sorting : Sorting) (source : RecordSource) (sort : List SortDescriptor)
    (records : List Record)
    : Attempt (List Record) :=
  if sort.isEmpty then pure records
  else
    match sorting.sort? (compareBy source sort) records with
    | some sorted => pure sorted
    | none =>
        Attempt.panic "user-provided comparison function does not correctly implement a total order"

end EntityStore
