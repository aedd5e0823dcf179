import EntityStore.Proofs.Deletion.Exact
import EntityStore.Proofs.Query.Order
import EntityStore.Proofs.Store.Refinement

/-! What fetching answers.
The walk over both layers of a context meets every live record once. Those that match are answered in the
order of the first key that tells two of them apart, and else in the order of their creation.
-/

namespace EntityStore

open Std

-----------------------------------------------------------------------------------------
-- Exact values
-----------------------------------------------------------------------------------------

/-- The storage type has no rounded values, so that only one value is in one place. -/
def AttributeType.isExact : AttributeType → Bool
  | float => false
  | double => false
  | _ => true

/-- The first value comes before the second one: an absent value before every other, no before yes, a smaller
whole number before a greater one, texts by their letters, and a point in time before a later one.
-/
def Earlier : Option Value → Option Value → Prop
  | none, some _ => True
  | some (.bool a), some (.bool b) => a = false ∧ b = true
  | some (.integer i), some (.integer j) => i.toInt < j.toInt
  | some (.string s), some (.string t) => s < t
  | some (.timestamp t), some (.timestamp u) =>
      t.seconds < u.seconds ∨ t.seconds = u.seconds ∧ t.nanos < u.nanos
  | _, _ => False

/-- Exact values of one type are ordered, and only a value itself is in its place. -/
theorem Value.compare?_exact {a b : Value} {type : AttributeType} (exact : type.isExact = true)
    (left : a.attributeType? = some type) (right : b.attributeType? = some type)
    : ∃ order,
        a.compare? b = some order
        ∧ (order = .lt ↔ Earlier (some a) (some b))
        ∧ (order = .eq ↔ a = b) := by
  cases a <;> cases left <;> cases b <;> cases right
  case bool.refl.bool.refl a b =>
    have less : compare a b = .lt ↔ a = false ∧ b = true := by cases a <;> cases b <;> decide
    refine ⟨_, rfl, less, ?_⟩
    rw [LawfulEqCmp.compare_eq_iff_eq, Value.bool.injEq]
  case integer.refl.integer.refl i j =>
    refine ⟨_, rfl, compare_eq_lt, ?_⟩
    rw [LawfulEqCmp.compare_eq_iff_eq, Int64.toInt_inj, Value.integer.injEq]
  case string.refl.string.refl s t =>
    refine ⟨_, rfl, compareOfLessAndEq_eq_lt, ?_⟩
    rw [LawfulEqCmp.compare_eq_iff_eq, Value.string.injEq]
  case timestamp.refl.timestamp.refl t u =>
    refine ⟨_, rfl, ?_, ?_⟩
    · rw [Timestamp.order, Ordering.then_eq_lt, compare_eq_lt, LawfulEqCmp.compare_eq_iff_eq, compare_eq_lt]
      rfl
    · rw [Timestamp.order, Ordering.then_eq_eq, LawfulEqCmp.compare_eq_iff_eq, LawfulEqCmp.compare_eq_iff_eq]
      cases t
      cases u
      simp
  all_goals cases exact

namespace SortDescriptor

theorem compareValues_exact {x y : Option Value} {type : AttributeType} (exact : type.isExact = true)
    (left : ∀ value ∈ x, value.attributeType? = some type)
    (right : ∀ value ∈ y, value.attributeType? = some type)
    : (compareValues x y = .lt ↔ Earlier x y) ∧ (compareValues x y = .eq ↔ x = y) := by
  cases x with
  | none => cases y <;> simp [compareValues, Earlier]
  | some a =>
      cases y with
      | none => simp [compareValues, Earlier]
      | some b =>
          obtain ⟨order, compared, less, alike⟩ := Value.compare?_exact exact (left a rfl) (right b rfl)
          rw [compareValues, compared, Option.getD_some, Option.some.injEq]
          exact ⟨less, alike⟩

end SortDescriptor

-----------------------------------------------------------------------------------------
-- Records
-----------------------------------------------------------------------------------------

/-- The first record comes before the second one: the first key whose values differ decides, the other way
round where it is descending, and else the identifiers.
-/
def Precedes (source : RecordSource) : List SortDescriptor → Record → Record → Prop
  | [], first, second => first.id.rank < second.id.rank
  | descriptor :: rest, first, second =>
      let x := firstReached? source descriptor.key first
      let y := firstReached? source descriptor.key second
      if x = y then Precedes source rest first second
      else if descriptor.ascending then Earlier x y else Earlier y x

variable {source : RecordSource} {records : List Record} {sort : List SortDescriptor}

/-- The values of each key are absent or of one exact type. -/
def Sortable (source : RecordSource) (sort : List SortDescriptor) (records : List Record) : Prop :=
  ∀ descriptor ∈ sort, ∃ type, type.isExact = true ∧ OfType source descriptor.key type records

/-- A key tells two records apart exactly if it reaches different values, and then these decide. -/
theorem SortDescriptor.compare_exact {type : AttributeType} (exact : type.isExact = true)
    (descriptor : SortDescriptor) (typed : OfType source descriptor.key type records) {first second : Record}
    (member : first ∈ records) (member' : second ∈ records)
    : let x := firstReached? source descriptor.key first
      let y := firstReached? source descriptor.key second
      (descriptor.compare source first second = .lt
        ↔ if descriptor.ascending then Earlier x y else Earlier y x)
      ∧ (descriptor.compare source first second = .eq ↔ x = y) := by
  intro x y
  obtain ⟨less, alike⟩ := compareValues_exact exact (typed first member) (typed second member')
  obtain ⟨greater, _⟩ := compareValues_exact exact (typed second member') (typed first member)
  rw [compare]
  split
  · exact ⟨less, alike⟩
  · rw [← compareValues_swap]
    exact ⟨greater, by rw [compareValues_swap, Ordering.swap_eq_eq]; exact alike⟩

theorem ahead_iff_precedes (sortable : Sortable source sort records) {first second : Record}
    (member : first ∈ records) (member' : second ∈ records)
    : Ahead (compareBy source sort) (fun first second => first.id.rank < second.id.rank) first second
      ↔ Precedes source sort first second := by
  induction sort with
  | nil => simp [Ahead, compareBy, Precedes]
  | cons descriptor rest ih =>
      obtain ⟨⟨type, exact, typed⟩, sortable⟩ := List.forall_mem_cons.mp sortable
      obtain ⟨less, alike⟩ := descriptor.compare_exact exact typed member member'
      rw [Ahead, compareBy, Precedes]
      split
      · next same =>
          rw [alike.mpr same, ← ih sortable]
          rfl
      · next different =>
          rw [← less, Ordering.then_eq_lt, Ordering.then_eq_eq]
          simp only [mt alike.mp different, false_and, or_false]

/-- Values of exact types are never blinded. -/
theorem not_blinded_of_exact {key : String} {type : AttributeType} (exact : type.isExact = true)
    (typed : OfType source key type records)
    : ¬ Blinded source key records := by
  rintro ⟨blind, member, _, _, _, _, value, reached, _, _, _, _, nan, _⟩
  have shaped := typed blind member value reached
  cases value with
  | float x => cases shaped; cases exact
  | double x => cases shaped; cases exact
  | _ => cases nan

theorem Sortable.preorder (sortable : Sortable source sort records)
    : PreorderOn (compareBy source sort) records :=
  preorder_compareBy (fun descriptor member => by
    obtain ⟨type, exact, typed⟩ := sortable descriptor member
    exact (descriptor.preorder_iff_not_blinded typed).mpr (not_blinded_of_exact exact typed))

-----------------------------------------------------------------------------------------
-- Fetching
-----------------------------------------------------------------------------------------

namespace Context

variable {context : Context}

/-- The answer has each live record of the entity that matches once, as the walk over both layers meets them,
and each record precedes those behind it.
-/
structure Fetched (context : Context) (entity : String) (predicate : Predicate) (sort : List SortDescriptor)
    (answer : List Record) : Prop where
  mem_iff
    : ∀ record,
        record ∈ answer
        ↔ (∃ id, context.record? id = some record)
          ∧ record.entity = entity
          ∧ predicate.evaluate context.record? record = true
  once : (answer.map (·.id)).Nodup
  walked
    : answer.Perm
        (context.layers.filter
          (fun record => record.entity = entity && predicate.evaluate context.record? record))
  ordered : answer.Pairwise (Precedes context.record? sort)

/-- Fetching does not give up; it filters the live records and sorts them by the keys, with their creation as
the last one.
Witness: the records that match stand in the order of their creation, which sorting keeps in each place.
-/
theorem fetch_fetched (sorting : Sorting) (context : Context) (entity : String) (predicate : Predicate)
    (sort : List SortDescriptor) (start : Keyed context.committed.get?) (keyed : Keyed context.record?)
    (sortable : Sortable context.record? sort (context.matching entity predicate))
    : ∃ answer,
        context.fetch sorting entity predicate sort = .ok answer
        ∧ Fetched context entity predicate sort answer := by
  have answers := sortRecords_of_preorder sorting sortable.preorder
  have perm := sortRecords_perm answers
  refine ⟨_, answers, ?_⟩
  have part : (context.matching entity predicate).Sublist context.live := List.filter_sublist
  refine ⟨fun record => mem_fetch_iff answers, ?_, ?_, ?_⟩
  · exact (perm.map _).nodup_iff.mpr ((live_ids_nodup keyed).sublist (part.map _))
  · exact perm.trans ((layers_perm keyed start).symm.filter _)
  · have arranged := (live_ascending keyed).sublist part
    refine (stableSort_ordered sortable.preorder arranged).imp_of_mem (fun member member' ahead => ?_)
    exact (ahead_iff_precedes sortable (perm.mem_iff.mp member) (perm.mem_iff.mp member')).mp ahead

end Context

/-- A book of authors with a number of pages. -/
private def volume (number : UInt64) (authors : List UInt64) (pages : Int64) : Record :=
  ((Record.new ⟨number⟩ "Book").setValue "pages" (some (.integer pages))).setRelated "authors"
    (authors.map ObjectId.mk)

private def penned (number : UInt64) (name : String) : Record :=
  (Record.new ⟨number⟩ "Author").setValue "name" (some (.string name))

/-- A job has renamed an author, taken one book away, given another one to an author that is not there and
added a book.
-/
private def revised : Context :=
  { committed :=
      .ofList
        ([penned 1 "Ada", penned 2 "Bo", volume 3 [1] 90, volume 4 [2, 1] 90, volume 5 [2] 70,
          volume 6 [2] 80].map (fun record => (record.id, record)))
    schema := ⟨"Library", []⟩
    pending :=
      .ofList
        [(⟨1⟩, some (penned 1 "Cy")), (⟨5⟩, none), (⟨6⟩, some (volume 6 [9] 80)),
          (⟨7⟩, some (volume 7 [2] 90)), (⟨8⟩, some (volume 8 [2] 95))]
    nextId := 9 }

/-- The revised books by their first authors downwards: the book without an author is the last one, and those
of one author and length stand in the order of their creation.
-/
theorem revised_fetched
    : let sort : List SortDescriptor :=
        [{ key := "authors.name", ascending := false }, { key := "pages", ascending := true }]
      Keyed revised.committed.get?
      ∧ Keyed revised.record?
      ∧ (∀ sorting : Sorting, ∃ answer,
          revised.fetch sorting "Book" .everything sort = .ok answer
          ∧ Context.Fetched revised "Book" .everything sort answer)
      ∧ revised.fetch .insertion "Book" .everything sort
        = .ok [volume 3 [1] 90, volume 4 [2, 1] 90, volume 7 [2] 90, volume 8 [2] 95,
            volume 6 [9] 80] := by
  have own : ∀ entry ∈ revised.committed.entries, entry.2.id = entry.1 := by decide +kernel
  have start : Keyed revised.committed.get? := fun found => own _ (Table.get?_eq_some_iff.mp found)
  have keyed : Keyed revised.record? := keyed_of_entries (by decide +kernel)
  refine ⟨start, keyed,
    fun sorting => Context.fetch_fetched sorting revised "Book" .everything _ start keyed ?_,
    by decide +kernel⟩
  exact List.forall_mem_cons.mpr
    ⟨⟨.string, rfl, by decide +kernel⟩,
      List.forall_mem_singleton.mpr ⟨.integer, rfl, by decide +kernel⟩⟩

end EntityStore
