import EntityStore.Proofs.Context.Overlay

/-! Sorting by an order.
Sorting rearranges the items, so that fetching answers with the records that match. Where the order is that of
a preorder on the items, they are in order afterwards, and those in one place stand as they stood before.
-/

namespace EntityStore

open Std

-----------------------------------------------------------------------------------------
-- Preorders
-----------------------------------------------------------------------------------------

variable {order : α → α → Ordering} {items : List α}

theorem preorderOn_iff_transCmp
    : PreorderOn order items ↔ TransCmp (fun a b : {item // item ∈ items} => order a b) := by
  constructor
  · intro preorder
    have oriented : OrientedCmp (fun a b : {item // item ∈ items} => order a b) :=
      ⟨fun {a b} => preorder.swap b b.2 a a.2⟩
    exact ⟨fun {a b c} => preorder.trans a a.2 b b.2 c c.2⟩
  · intro lawful
    refine ⟨fun a member => ?_, fun a member b member' => ?_, fun a member b member' c member'' => ?_⟩
    · have reflexive : ReflCmp (fun a b : {item // item ∈ items} => order a b) := inferInstance
      exact reflexive.compare_self (a := ⟨a, member⟩)
    · exact lawful.eq_swap (a := ⟨b, member'⟩) (b := ⟨a, member⟩)
    · exact lawful.isLE_trans (a := ⟨a, member⟩) (b := ⟨b, member'⟩) (c := ⟨c, member''⟩)

namespace PreorderOn

theorem mono {items' : List α} (preorder : PreorderOn order items) (part : items' ⊆ items)
    : PreorderOn order items' :=
  ⟨fun a member => preorder.self a (part member),
    fun a member b member' => preorder.swap a (part member) b (part member'),
    fun a member b member' c member'' => preorder.trans a (part member) b (part member') c (part member'')⟩

theorem nil : PreorderOn order [] :=
  ⟨nofun, nofun, nofun⟩

theorem const (items : List α) : PreorderOn (fun _ _ => .eq) items :=
  ⟨fun _ _ => rfl, fun _ _ _ _ => rfl, fun _ _ _ _ _ _ _ _ => rfl⟩

/-- What the first of two orders does not tell apart may be ordered by the second one. -/
theorem andThen {next : α → α → Ordering} (first : PreorderOn order items)
    (second : PreorderOn next items)
    : PreorderOn (fun a b => (order a b).then (next a b)) items := by
  rw [preorderOn_iff_transCmp] at *
  exact inferInstanceAs (TransCmp (compareLex _ _))

/-- The order the other way round. -/
theorem reverse (preorder : PreorderOn order items) : PreorderOn (fun a b => (order a b).swap) items := by
  refine ⟨fun a member => ?_, fun a member b member' => ?_,
    fun a member b member' c member'' first second => ?_⟩
  · rw [preorder.self a member, Ordering.swap_eq]
  · rw [preorder.swap a member b member']
  · rw [← preorder.swap _ ‹_› _ ‹_›] at *
    exact preorder.trans c member'' b member' a member second first

end PreorderOn

-----------------------------------------------------------------------------------------
-- Rearranging
-----------------------------------------------------------------------------------------

/-- An order that tells no items apart leaves them where they are. -/
theorem stableSort_const (items : List α) : stableSort (fun _ _ => .eq) items = items := by
  have stacked (sorted : List α)
      : items.foldl (fun sorted item => insertSorted (fun _ _ => .eq) item sorted) sorted
        = items.reverse ++ sorted := by
    induction items generalizing sorted with
    | nil => rfl
    | cons item rest ih =>
        have front : insertSorted (fun _ _ => .eq) item sorted = item :: sorted := by
          cases sorted <;> rfl
        rw [List.foldl_cons, front, ih, List.reverse_cons, List.append_assoc, List.singleton_append]
  rw [stableSort, stacked, List.append_nil, List.reverse_reverse]

-----------------------------------------------------------------------------------------
-- Sorted records
-----------------------------------------------------------------------------------------

variable {sorting : Sorting} {source : RecordSource} {sort : List SortDescriptor}
  {records sorted : List Record}

/-- What is answered are the records that were given. -/
theorem sortRecords_perm (sorts : sortRecords sorting source sort records = .ok sorted)
    : sorted.Perm records := by
  unfold sortRecords at sorts
  split at sorts
  · exact Except.ok.inj sorts ▸ .refl _
  · split at sorts
    · next found => exact Except.ok.inj sorts ▸ sorting.perm found
    · cases sorts

/-- Keys that give a preorder to the records do not let sorting give up. -/
theorem sortRecords_of_preorder (sorting : Sorting)
    (preorder : PreorderOn (compareBy source sort) records)
    : sortRecords sorting source sort records = .ok (stableSort (compareBy source sort) records) := by
  unfold sortRecords
  split
  · next keyless =>
      rw [List.isEmpty_iff.mp keyless]
      exact congrArg Except.ok (stableSort_const records).symm
  · rw [sorting.stable preorder]
    rfl

/-- Keys that compare the records alike in two sources sort them alike. -/
theorem sortRecords_congr {source' : RecordSource}
    (same
      : ∀ left ∈ records, ∀ right ∈ records,
          compareBy source sort left right = compareBy source' sort left right)
    : sortRecords sorting source sort records = sortRecords sorting source' sort records := by
  unfold sortRecords
  rw [sorting.congr same]

namespace Context

variable {context : Context} {entity : String} {predicate : Predicate} {record : Record}

/-- Without sort keys the records are fetched in the order in which they match. -/
theorem fetch_nil (sorting : Sorting) (context : Context) (entity : String) (predicate : Predicate)
    : context.fetch sorting entity predicate [] = .ok (context.matching entity predicate) := rfl

/-- Fetching answers with the live records of an entity that match, if it answers. -/
theorem mem_fetch_iff {fetched : List Record}
    (answers : context.fetch sorting entity predicate sort = .ok fetched)
    : record ∈ fetched
      ↔ (∃ id, context.record? id = some record)
        ∧ record.entity = entity
        ∧ predicate.evaluate context.record? record = true := by
  rw [(sortRecords_perm answers).mem_iff, mem_matching_iff]

end Context

-----------------------------------------------------------------------------------------
-- In order
-----------------------------------------------------------------------------------------

/-- The first item comes before the second one, or stood before it where the order puts them in one place. -/
def Ahead (order : α → α → Ordering) (earlier : α → α → Prop) (first second : α) : Prop :=
  order first second = .lt ∨ order first second = .eq ∧ earlier first second

variable {earlier : α → α → Prop}

theorem Ahead.isLE {first second : α} (ahead : Ahead order earlier first second)
    : (order first second).isLE = true :=
  Ordering.isLE_iff_eq_lt_or_eq_eq.mpr (ahead.imp_right And.left)

theorem ahead_of_isLE {first second : α} (le : (order first second).isLE = true)
    (before : earlier first second)
    : Ahead order earlier first second :=
  (Ordering.isLE_iff_eq_lt_or_eq_eq.mp le).imp_right (fun alike => ⟨alike, before⟩)

/-- An item is put behind everything that it does not come before.
Witness: induction on the items, which stand from the last one to the first one.
-/
theorem insertSorted_ordered {item : α} {sorted : List α} (preorder : PreorderOn order (item :: sorted))
    (ordered : sorted.Pairwise (fun second first => Ahead order earlier first second))
    (before : ∀ other ∈ sorted, earlier other item)
    : (insertSorted order item sorted).Pairwise (fun second first => Ahead order earlier first second) := by
  induction sorted with
  | nil => exact List.pairwise_singleton _ _
  | cons last rest ih =>
      obtain ⟨behind, ordered'⟩ := List.pairwise_cons.mp ordered
      have mine : item ∈ item :: last :: rest := .head _
      have final : last ∈ item :: last :: rest := .tail _ (.head _)
      rw [insertSorted]
      split
      · next less =>
          refine List.pairwise_cons.mpr ⟨fun other listed => ?_, ih (preorder.mono ?_) ordered' ?_⟩
          · rcases (mem_insertSorted rest).mp listed with rfl | listed
            · exact Or.inl less
            · exact behind other listed
          · exact List.cons_subset_cons item (List.subset_cons_self last rest)
          · exact fun other listed => before other (.tail _ listed)
      · next notLess =>
          have le : (order last item).isLE = true := by
            rw [preorder.swap item mine last final]
            revert notLess
            cases order item last <;> simp
          refine List.pairwise_cons.mpr ⟨fun other listed => ?_, ordered⟩
          refine ahead_of_isLE ?_ (before other listed)
          rcases List.mem_cons.mp listed with rfl | listed
          · exact le
          · exact preorder.trans other (.tail _ (.tail _ listed)) last final item mine
              (behind other listed).isLE le

/-- Sorted items are in order, and items in one place stand as they stood before.
Witness: induction on the items that are left, each of which stood behind those already sorted.
-/
theorem stableSort_ordered (preorder : PreorderOn order items) (arranged : items.Pairwise earlier)
    : (stableSort order items).Pairwise (Ahead order earlier) := by
  have folded (rest sorted : List α) (preorder : PreorderOn order (rest ++ sorted))
      (ordered : sorted.Pairwise (fun second first => Ahead order earlier first second))
      (before : ∀ other ∈ sorted, ∀ item ∈ rest, earlier other item)
      (arranged : rest.Pairwise earlier)
      : (rest.foldl (fun sorted item => insertSorted order item sorted) sorted).Pairwise
          (fun second first => Ahead order earlier first second) := by
    induction rest generalizing sorted with
    | nil => exact ordered
    | cons item rest ih =>
        obtain ⟨behind, arranged⟩ := List.pairwise_cons.mp arranged
        have placed := insertSorted_perm order item sorted
        have part : item :: sorted ⊆ (item :: rest) ++ sorted :=
          List.cons_subset_cons item (List.subset_append_right rest sorted)
        refine ih _ (preorder.mono ?_) ?_ ?_ arranged
        · exact ((placed.append_left rest).trans List.perm_middle).subset
        · exact insertSorted_ordered (preorder.mono part) ordered
            (fun other listed => before other listed item (.head _))
        · intro other listed next listed'
          rcases (mem_insertSorted sorted).mp listed with rfl | listed
          · exact behind next listed'
          · exact before other listed next (.tail _ listed')
  rw [stableSort, List.pairwise_reverse]
  exact folded items [] (by rwa [List.append_nil]) .nil nofun arranged

end EntityStore
