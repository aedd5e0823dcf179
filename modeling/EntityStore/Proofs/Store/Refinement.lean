import EntityStore.Proofs.Context.Draft
import EntityStore.Proofs.Store.Run
import Mathlib.Data.List.Sort

/-! A job's context stands for one plain table, and a commit reports what sets the table apart.
Whatever a job does, reading through its context is reading the draft that the same operations were
applied to, and committing leaves that draft. The reported changes depend on the arena before and
after only: what was undone within the job is reported nowhere.
-/

namespace EntityStore

variable {context : Context} {draft : Draft}

-----------------------------------------------------------------------------------------
-- Ascending identifiers
-----------------------------------------------------------------------------------------

/-- The identifiers stand in the order in which they are given out. -/
def AscendingIds (ids : List ObjectId) : Prop :=
  ids.Pairwise (fun earlier later => earlier.rank < later.rank)

/-- Ascending lists of the same identifiers are the same list. -/
private theorem AscendingIds.ext {left right : List ObjectId} (first : AscendingIds left)
    (second : AscendingIds right) (same : ∀ id, id ∈ left ↔ id ∈ right)
    : left = right := by
  have : Std.Irrefl (fun earlier later : ObjectId => earlier.rank < later.rank) :=
    ⟨fun _ => Nat.lt_irrefl _⟩
  have : Std.Antisymm (fun earlier later : ObjectId => earlier.rank < later.rank) :=
    ⟨fun _ _ before after => absurd before (Nat.lt_asymm after)⟩
  exact first.eq_of_mem_iff second same

/-- The keys of the entries of a table ascend, whatever entries are left out. -/
private theorem ascending_filter {α : Type} (table : Table ObjectId α)
    (keeps : ObjectId × α → Bool)
    : AscendingIds ((table.entries.filter keeps).map (·.1)) := by
  unfold AscendingIds
  rw [List.pairwise_map]
  exact (table.ascending.imp (fun before => ObjectId.rank_lt_iff.mpr before)).filter keeps

private theorem ascending_keys (arena : Arena) (keeps : ObjectId → Bool)
    : AscendingIds (arena.keys.filter keeps) := by
  rw [Table.keys, List.filter_map]
  exact ascending_filter arena _

private theorem mem_keys_iff {arena : Arena} {id : ObjectId}
    : id ∈ arena.keys ↔ (arena.get? id).isSome = true := by
  rw [Option.isSome_iff_exists, Table.keys, List.mem_map]
  constructor
  · intro given
    obtain ⟨entry, member, rfl⟩ := given
    exact ⟨entry.2, Table.get?_eq_some_iff.mpr member⟩
  · intro given
    obtain ⟨record, found⟩ := given
    exact ⟨(id, record), Table.get?_eq_some_iff.mp found, rfl⟩

private theorem mem_touched_iff {pending : Table ObjectId (Option Record)}
    {touches : ObjectId × Option Record → Bool} {id : ObjectId}
    : id ∈ (pending.entries.filter touches).map (·.1)
      ↔ ∃ now, pending.get? id = some now ∧ touches (id, now) = true := by
  rw [List.mem_map]
  constructor
  · intro given
    obtain ⟨entry, member, rfl⟩ := given
    obtain ⟨member, touched⟩ := List.mem_filter.mp member
    exact ⟨entry.2, Table.get?_eq_some_iff.mpr member, touched⟩
  · intro given
    obtain ⟨now, found, touched⟩ := given
    exact ⟨(id, now), List.mem_filter.mpr ⟨Table.get?_eq_some_iff.mp found, touched⟩, rfl⟩

-----------------------------------------------------------------------------------------
-- What a commit reports
-----------------------------------------------------------------------------------------

/-- What sets two arenas apart, by the identifiers of their records. -/
def Arena.difference (before after : Arena) : ChangeSet where
  inserted := after.keys.filter (fun id => !before.contains id)
  updated := after.keys.filter (fun id => before.contains id && before.get? id ≠ after.get? id)
  deleted := before.keys.filter (fun id => !after.contains id)

/-- What is inserted is there afterwards only. -/
theorem Arena.mem_inserted_iff {before after : Arena} {id : ObjectId}
    : id ∈ (before.difference after).inserted
      ↔ (∃ record, after.get? id = some record) ∧ before.get? id = none := by
  rw [difference, List.mem_filter, mem_keys_iff, Option.isSome_iff_exists]
  simp [Table.contains]

/-- What is updated is there before and afterwards, and not the same. -/
theorem Arena.mem_updated_iff {before after : Arena} {id : ObjectId}
    : id ∈ (before.difference after).updated
      ↔ (∃ record, after.get? id = some record)
        ∧ (∃ record, before.get? id = some record)
        ∧ before.get? id ≠ after.get? id := by
  rw [difference, List.mem_filter, mem_keys_iff, Option.isSome_iff_exists]
  simp [Table.contains, Option.isSome_iff_exists]

/-- What is inserted or updated is reported by ascending identifiers. -/
theorem Arena.ascending_difference (before after : Arena)
    : AscendingIds (before.difference after).inserted
      ∧ AscendingIds (before.difference after).updated :=
  ⟨ascending_keys _ _, ascending_keys _ _⟩

/-- A commit touches what sets the committed records apart from what the job sees. -/
theorem Context.changes_eq_difference (context : Context)
    : context.changes = context.committed.difference context.view := by
  have touched (touches : Option Record → Option Record → Bool) (arena : Arena)
      (keeps : ObjectId → Bool)
      (same
        : ∀ id,
            (∃ now, context.pending.get? id = some now
              ∧ touches (context.committed.get? id) now = true)
            ↔ (arena.get? id).isSome = true ∧ keeps id = true)
      : (context.pending.entries.filter
          (fun entry => touches (context.committed.get? entry.1) entry.2)).map (·.1)
        = arena.keys.filter keeps := by
    refine (ascending_filter context.pending _).ext (ascending_keys arena keeps) (fun id => ?_)
    rw [mem_touched_iff, List.mem_filter, mem_keys_iff]
    exact same id
  unfold Context.changes Arena.difference
  simp only [ChangeSet.mk.injEq]
  refine ⟨touched (fun before now => before.isNone && now.isSome) _ _ (fun id => ?_),
    touched (fun before now => before.isSome && now.isSome && before ≠ now) _ _ (fun id => ?_),
    touched (fun before now => before.isSome && now.isNone) _ _ (fun id => ?_)⟩
  all_goals
    simp only [Table.contains, get?_view, record?]
    cases context.pending.get? id with
    | none => cases context.committed.get? id <;> simp
    | some now => cases context.committed.get? id <;> cases now <;> simp

/-- Committing would change something exactly where the job sees other records than the committed
ones. -/
theorem Context.hasChanges_iff (context : Context)
    : context.hasChanges = true ↔ context.view ≠ context.committed := by
  rw [← not_iff_not, Classical.not_not, Bool.not_eq_true, hasChanges, List.any_eq_false]
  constructor
  · intro unchanged
    refine Table.ext_get? (fun id => ?_)
    rw [get?_view, record?]
    cases pending : context.pending.get? id with
    | none => rfl
    | some now => simpa using unchanged _ (Table.get?_eq_some_iff.mp pending)
  · intro same entry member
    have pending : context.pending.get? entry.1 = some entry.2 := Table.get?_eq_some_iff.mpr member
    rw [decide_eq_true_eq, Classical.not_not, ← same, get?_view, record?, pending]

-----------------------------------------------------------------------------------------
-- Reading in two layers
-----------------------------------------------------------------------------------------

/-- The committed records that nothing pending stands for, and then the pending ones. -/
def Context.layers (context : Context) : List Record :=
  context.committed.values.filter (fun record => !context.pending.contains record.id)
    ++ context.pending.values.filterMap id

/-- The identifiers of the records of an arena have no repetition. -/
private theorem values_ids_nodup {arena : Arena} (keyed : Keyed arena.get?)
    : (arena.values.map (·.id)).Nodup := by
  have live : (Context.ofArena arena ⟨"", []⟩ 0).live = arena.values := rfl
  have distinct : ((Context.ofArena arena ⟨"", []⟩ 0).live.map (·.id)).Nodup :=
    Context.live_ids_nodup keyed
  rwa [live] at distinct

/-- A walk over both layers meets every live record once.
Witness: a record that is committed and pending is met among the pending ones only.
-/
theorem Context.layers_perm (keyed : Keyed context.record?) (start : Keyed context.committed.get?)
    : context.layers.Perm context.view.values := by
  let written : Arena := context.pending.filterMap (fun _ record => record)
  have pending : context.pending.values.filterMap id = written.values := by
    simp only [written, Table.values, Table.filterMap, List.filterMap_map, List.map_filterMap]
    refine List.filterMap_congr (fun entry _ => ?_)
    cases h : entry.2 <;> simp [h]
  have found_written {id : ObjectId} {record : Record}
      : written.get? id = some record ↔ context.pending.get? id = some (some record) := by
    rw [Table.get?_filterMap, Option.bind_eq_some_iff]
    simp only [exists_eq_right]
  have keyed_written : Keyed written.get? := by
    intro id record found
    exact keyed (by rw [record?, found_written.mp found])
  have covers {record : Record}
      : (∃ id, written.get? id = some record)
        ↔ context.pending.get? record.id = some (some record) := by
    constructor
    · intro given
      obtain ⟨id, found⟩ := given
      rw [keyed_written found]
      exact found_written.mp found
    · exact fun found => ⟨record.id, found_written.mpr found⟩
  have distinct : context.layers.Nodup := by
    refine List.nodup_append.mpr ⟨?_, ?_, ?_⟩
    · exact ((values_ids_nodup start).of_map _).sublist List.filter_sublist
    · rw [pending]
      exact (values_ids_nodup keyed_written).of_map _
    · intro left inside right inside' same
      subst same
      rw [pending, Table.mem_values_iff, covers] at inside'
      have hidden := (List.mem_filter.mp inside).2
      simp [Table.contains, inside'] at hidden
  refine (List.perm_ext_iff_of_nodup distinct ?_).mpr (fun record => ?_)
  · exact (Context.live_ids_nodup keyed).of_map _
  · have live : record ∈ context.view.values ↔ context.record? record.id = some record := by
      refine mem_live_iff.trans ⟨fun given => ?_, fun found => ⟨_, found⟩⟩
      obtain ⟨id, found⟩ := given
      rwa [keyed found]
    rw [live, layers, List.mem_append, pending, Table.mem_values_iff, covers, List.mem_filter,
      Table.mem_values_iff, record?]
    have own : (∃ id, context.committed.get? id = some record)
        ↔ context.committed.get? record.id = some record := by
      refine ⟨fun given => ?_, fun found => ⟨_, found⟩⟩
      obtain ⟨id, found⟩ := given
      rwa [start found]
    rw [own]
    cases found : context.pending.get? record.id <;> simp [Table.contains, found]

-----------------------------------------------------------------------------------------
-- Contexts and drafts
-----------------------------------------------------------------------------------------

/-- Reading through the context is reading the draft, and committing leaves the draft and reports what
sets it apart from the committed records.
-/
structure Reflects (context : Context) (draft : Draft) : Prop where
  nextId : context.nextId = draft.nextId
  record : ∀ id, context.record? id = draft.records.get? id
  value : ∀ id key, context.value? id key = (draft.records.get? id).bind (·.value? key)
  related
    : ∀ id key, context.related id key = ((draft.records.get? id).map (·.related key)).getD []
  /-- The live records are met in two layers, and queries see all of them in order. -/
  layers : context.layers.Perm draft.records.values
  fetch
    : ∀ sorting entity predicate sort,
        context.fetch sorting entity predicate sort
        = draft.records.fetch sorting entity predicate sort
  hasChanges : context.hasChanges = true ↔ draft.records ≠ draft.start
  commit
    : ∀ store : Store,
        store.records = draft.start → (store.commit context).2.records = draft.records
  changes : context.changes = draft.start.difference draft.records
  ascending
    : AscendingIds context.changes.inserted
      ∧ AscendingIds context.changes.updated
      ∧ AscendingIds context.changes.deleted

theorem Mirrors.reflects (mirrors : Mirrors context draft) : Reflects context draft := by
  have record (id : ObjectId) : context.record? id = draft.records.get? id := by
    rw [← mirrors.records, Context.get?_view]
  have source : context.record? = draft.records.source := funext record
  have changes : context.changes = draft.start.difference draft.records := by
    rw [context.changes_eq_difference, mirrors.committed, mirrors.records]
  refine { nextId := mirrors.nextId, record, value := ?_, related := ?_, layers := ?_, fetch := ?_,
           hasChanges := ?_, commit := ?_, changes, ascending := ?_ }
  · intro id key
    rw [Context.value?, record]
  · intro id key
    rw [Context.related, record]
    cases draft.records.get? id <;> rfl
  · rw [← mirrors.records]
    exact Context.layers_perm mirrors.keyed mirrors.keyedStart
  · intro sorting entity predicate sort
    rw [Context.fetch, Arena.fetch, Context.matching, Context.live, mirrors.records, source]
  · rw [context.hasChanges_iff, mirrors.committed, mirrors.records]
  · intro store same
    refine Table.ext_get? (fun id => ?_)
    rw [Store.commit_records (mirrors.committed.trans same.symm), record]
  · rw [changes]
    exact ⟨ascending_keys _ _, ascending_keys _ _, ascending_keys _ _⟩

/-- Operations end alike on a context and on a draft: both give up with one message, or the context
reflects the draft. -/
def EndAlike (context : Context) (draft : Draft) (operations : List Operation) : Prop :=
  (∃ after draft',
    context.performAll operations = .ok after
    ∧ draft.performAll operations = .ok draft'
    ∧ Reflects after draft')
  ∨ ∃ message,
      context.performAll operations = .error (.panic message)
      ∧ draft.performAll operations = .error (.panic message)

/-- On any arena whose records stand under their own identifiers, any operations in any order and on any
identifiers end alike on a context over the arena and on a draft of it.
-/
theorem operations_reflect {start : Arena} (keyed : Keyed start.get?) (schema : Schema)
    (nextId : UInt64) (operations : List Operation)
    : EndAlike (.ofArena start schema nextId) (.ofArena start schema nextId) operations := by
  refine ((Mirrors.ofArena keyed schema nextId).performAll operations).imp_left (fun given => ?_)
  obtain ⟨context, draft, ends, ends', mirrors⟩ := given
  exact ⟨context, draft, ends, ends', mirrors.reflects⟩

/-- Two shelves, of which the first holds the second. -/
private def shelves : Arena :=
  .ofList
    ([(Record.new ⟨1⟩ "Shelf").setRelated "below" [⟨2⟩],
      (Record.new ⟨2⟩ "Shelf").setValue "width" (some (.integer 80))].map
      (fun record => (record.id, record)))

/-- A shelf is inserted and deleted again, another one is narrowed and widened again, one stays new and
one is deleted after a rollback.
-/
private def rearranging : List Operation :=
  [.delete ⟨1⟩, .rollback, .insert "Shelf", .setRelated ⟨1⟩ "below" [⟨2⟩, ⟨3⟩],
    .setValue ⟨2⟩ "width" (some (.integer 60)), .insert "Shelf", .delete ⟨3⟩,
    .setValue ⟨2⟩ "width" (some (.integer 80)), .setValue ⟨9⟩ "width" none, .delete ⟨9⟩]

/-- Rearranging the shelves ends alike on both sides, and only the shelf that stays new is reported. -/
theorem rearranging_reflects
    : let schema : Schema :=
        ⟨"Room", [(EntityDescriptor.new "Shelf").relate "Shelf" "below" 0 .cascade]⟩
      Keyed shelves.get?
      ∧ EndAlike (.ofArena shelves schema 3) (.ofArena shelves schema 3) rearranging
      ∧ ((Context.ofArena shelves schema 3).performAll rearranging).toOption.map Context.changes
        = some { inserted := [⟨4⟩], updated := [], deleted := [] } := by
  intro schema
  have own : ∀ entry ∈ shelves.entries, entry.2.id = entry.1 := by decide +kernel
  have keyed : Keyed shelves.get? := fun found => own _ (Table.get?_eq_some_iff.mp found)
  exact ⟨keyed, operations_reflect keyed schema 3 rearranging, by decide +kernel⟩

end EntityStore
