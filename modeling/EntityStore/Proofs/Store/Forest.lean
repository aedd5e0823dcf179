import EntityStore.Proofs.Service.Keeper
import EntityStore.Proofs.Store.Run

/-! The committed records of a store form a forest.
Whatever typed batches and deletions a store has seen, in any order and with any of them given up, no
member is missing, shared, listed twice, misplaced, or below itself.
-/

namespace EntityStore

variable {types : Model} {store : Store}

/-- The records of an arena form a forest of typed records: every member that a relation lists is a
record, is listed nowhere else, and is of the type that the field of the relation declares. No record is
below itself, a relation to one record lists one at most, and no empty list is kept.
-/
structure Arena.IsForest (types : Model) (arena : Arena) : Prop where
  live
    : ∀ {owner record key ids member},
        arena.get? owner = some record
        → record.relations.get? key = some ids
        → member ∈ ids
        → ∃ found, arena.get? member = some found
  once : (arena.values.flatMap (fun record => record.relations.values.flatten)).Nodup
  acyclic : ∀ id, ¬ Below arena.get? id id
  declared
    : ∀ {owner record key ids member found},
        arena.get? owner = some record
        → record.relations.get? key = some ids
        → member ∈ ids
        → arena.get? member = some found
        → ∃ field ∈ (types.entity record.entity).fields,
            field.key = key ∧ field.kind = .reference found.entity
  toOne
    : ∀ {owner record field ids},
        arena.get? owner = some record
        → field ∈ (types.entity record.entity).fields
        → field.shape.list = false
        → record.relations.get? field.key = some ids
        → ids.length ≤ 1
  filled
    : ∀ {owner record key},
        arena.get? owner = some record → record.relations.get? key ≠ some []

/-- The entries of a table have different keys. -/
private theorem entries_distinct {κ α : Type} [Ord κ] [Std.ReflOrd κ] (table : Table κ α)
    : table.entries.Pairwise (fun a b => a.1 ≠ b.1) := by
  refine table.ascending.imp (fun {a b} before same => ?_)
  rw [same, Std.ReflOrd.compare_self] at before
  contradiction

/-- In a forest no identifier is listed twice. -/
private theorem members_once {context : Context} (forest : Forest types context) {arena : Arena}
    (records : ∀ id, context.record? id = arena.get? id)
    : (arena.values.flatMap (fun record => record.relations.values.flatten)).Nodup := by
  have holds {entry : ObjectId × Record} {relation : String × List ObjectId} {member : ObjectId}
      (listed : entry ∈ arena.entries) (kept : relation ∈ entry.2.relations.entries)
      (inside : member ∈ relation.2)
      : Holds context.record? entry.1 relation.1 member := by
    refine ⟨entry.2, (records _).trans (Table.get?_eq_some_iff.mpr listed), ?_⟩
    rw [Record.related, Table.get?_eq_some_iff.mpr kept]
    exact inside
  have within {record : Record} {member : ObjectId}
      (inside : member ∈ record.relations.values.flatten)
      : ∃ relation ∈ record.relations.entries, member ∈ relation.2 := by
    obtain ⟨ids, listed, inside⟩ := List.mem_flatten.mp inside
    obtain ⟨relation, kept, rfl⟩ := List.mem_map.mp listed
    exact ⟨relation, kept, inside⟩
  rw [List.nodup_flatMap]
  constructor
  · intro record value
    obtain ⟨entry, listed, rfl⟩ := List.mem_map.mp value
    rw [List.nodup_flatten]
    constructor
    · intro ids value
      obtain ⟨relation, kept, rfl⟩ := List.mem_map.mp value
      have found := (records _).trans (Table.get?_eq_some_iff.mpr listed)
      have same : entry.2.related relation.1 = relation.2 := by
        rw [Record.related, Table.get?_eq_some_iff.mpr kept]
        rfl
      exact same ▸ forest.nodup found
    · rw [Table.values, List.pairwise_map]
      refine (entries_distinct entry.2.relations).imp_of_mem ?_
      intro a b first second distinct member left right
      exact distinct (forest.sole (holds listed first left) (holds listed second right)).2
  · rw [Table.values, List.pairwise_map]
    refine (entries_distinct arena).imp_of_mem ?_
    intro a b first second distinct member left right
    obtain ⟨_, kept, inside⟩ := within left
    obtain ⟨_, kept', inside'⟩ := within right
    exact distinct (forest.sole (holds first kept inside) (holds second kept' inside')).1

/-- The committed records of a sound store form a forest. -/
theorem Sound.isForest (sound : Sound types store.view) : store.records.IsForest types := by
  have forest := sound.forest
  have records (id : ObjectId) : store.view.record? id = store.records.get? id := rfl
  have holds {owner record key ids member} (found : store.records.get? owner = some record)
      (kept : record.relations.get? key = some ids) (inside : member ∈ ids)
      : member ∈ record.related key := by
    rw [Record.related, kept]
    exact inside
  refine { live := ?_, once := members_once forest records, acyclic := forest.not_below_self,
           declared := ?_, toOne := ?_, filled := forest.filled }
  · intro owner record key ids member found kept inside
    exact forest.live_of_linked ⟨key, record, found, holds found kept inside⟩
  · intro owner record key ids member member' found kept inside found'
    obtain ⟨field, listed, same, target, kind, present, live, typed⟩ :=
      forest.declared found (holds found kept inside)
    rw [records, found', Option.some.injEq] at live
    subst live
    exact ⟨field, listed, same, by rw [kind, typed]⟩
  · intro owner record field ids found listed toOne kept
    have few := forest.single found listed toOne
    rwa [Record.related, kept] at few

/-- The committed records of a store form a forest, whatever typed batches, deletions and other calls it
has seen since it had no records, in any order and under any schema.
Witness: every call leaves the records sound, and sound records form a forest.
-/
theorem records_isForest (empty : store.records = .empty) (calls : List Call)
    : (store.after calls).records.IsForest Service.types :=
  (Sound.after empty calls).isForest

/-- Keepers are added, everyone is deleted, and a keeper comes back beside a new one with an apprentice:
a forest of three records is left.
-/
theorem keepers_isForest
    : let calls : List Call :=
        [.addOrUpdate (Zoo.keepers
            [Zoo.keeperOf "k1" [Zoo.keeperOf "k2" [], Zoo.keeperOf "k3" []]] (by decide +kernel)),
          .deleteAll Zoo.everyone,
          .addOrUpdate (Zoo.keepers
            [Zoo.keeperOf "k4" [Zoo.keeperOf "k2" []], Zoo.keeperOf "k1" []] (by decide +kernel)),
          .fetch Zoo.everyone]
      (Store.opened Zoo.model.schema).records = .empty
      ∧ ((Store.opened Zoo.model.schema).after calls).records.values.length = 3
      ∧ ((Store.opened Zoo.model.schema).after calls).records.IsForest Service.types :=
  ⟨rfl, by decide +kernel, records_isForest rfl _⟩

end EntityStore
