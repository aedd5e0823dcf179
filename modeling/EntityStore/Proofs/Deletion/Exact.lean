import EntityStore.Proofs.Deletion.Closure

/-! A deletion takes exactly what cascading relationships reach, in any order.
This holds of every graph of records. A deletion of several records takes the union of what each of
them reaches at the start, and leaves one and the same arena in whatever order they are named.
-/

namespace EntityStore

variable {context after : Context} {gone : ObjectId → Prop}

/-- A record that is left keeps its attributes and, in order, all its members that have not gone. -/
structure Spared (gone : ObjectId → Prop) (record record' : Record) : Prop where
  id : record'.id = record.id
  entity : record'.entity = record.entity
  attributes : record'.attributes = record.attributes
  related : ∀ key, record'.related key = (record.related key).filter (spares gone)

/-- Exactly the records of a set are gone, and the others are spared. -/
structure LeftWithout (gone : ObjectId → Prop) (context after : Context) : Prop where
  live
    : ∀ x,
        (∃ record, after.record? x = some record)
        ↔ (∃ record, context.record? x = some record) ∧ ¬ gone x
  spared
    : ∀ {x record record'},
        context.record? x = some record → after.record? x = some record' → Spared gone record record'

theorem Sheds.leftWithout (sheds : Sheds gone context after) : LeftWithout gone context after := by
  refine ⟨fun x => sheds.live_iff, fun {x record record'} found found' => ?_⟩
  obtain ⟨_, before, present, rfl⟩ := sheds.found found'
  obtain rfl := Option.some.inj (present.symm.trans found)
  exact ⟨before.shed_id gone, before.shed_entity gone, before.shed_attributes gone,
    before.related_shed gone⟩

/-- Several identifiers take what one of them takes. -/
theorem taken_iff_exists {ids : List ObjectId} {x : ObjectId}
    : Taken context ids x ↔ ∃ id ∈ ids, Taken context [id] x := by
  constructor
  · intro taken
    obtain ⟨live, id, listed, path⟩ := taken
    exact ⟨id, listed, live, id, List.mem_cons_self, path⟩
  · intro given
    obtain ⟨id, listed, live, root, same, path⟩ := given
    obtain rfl := List.mem_singleton.mp same
    exact ⟨live, root, listed, path⟩

/-- Deletions in a context come to an end and take exactly what cascading relationships reach. -/
structure DeletesExactly (context : Context) : Prop where
  /-- With no limit on its depth, a deletion ends with one context. -/
  ends : ∀ id after, Deletes context [id] after ↔ after = context.delete id
  closure : ∀ id, LeftWithout (Taken context [id]) context (context.delete id)
  union
    : ∀ ids : List ObjectId,
        LeftWithout (fun x => ∃ id ∈ ids, Taken context [id] x) context
          (ids.foldl Context.delete context)
  anyOrder
    : ∀ ids ids' : List ObjectId,
        (∀ id, id ∈ ids ↔ id ∈ ids')
        → (ids.foldl Context.delete context).view = (ids'.foldl Context.delete context).view
  /-- A query deletes what the records that match at the start take. -/
  matching
    : ∀ query : Query, ∃ after,
        query.deleteMatches context = .ok ((), after)
        ∧ LeftWithout
            (fun x =>
              ∃ record ∈ context.matching query.entityName query.filter, Taken context [record.id] x)
            context after

/-- In every context whose records stand under their own identifiers, deletions come to an end and take
exactly what cascading relationships reach.
-/
theorem deletion_exact (keyed : Keyed context.record?) : DeletesExactly context := by
  have union (ids : List ObjectId) := cleared_foldl_delete context ids keyed
  refine ⟨fun id after => ?_, fun id => ?_, fun ids => ?_, fun ids ids' same => ?_, fun query => ?_⟩
  · have ends := (cleared_delete context id keyed).ends
    constructor
    · exact fun other => other.unique ends
    · intro same
      exact same ▸ ends
  · exact (cleared_delete context id keyed).sheds.leftWithout
  · exact ((union ids).sheds.congr (fun x => taken_iff_exists)).leftWithout
  · refine ((union ids).sheds.congr (fun x => ?_)).view_eq (union ids').sheds
    unfold Taken
    simp only [same]
  · refine ⟨_, rfl, ((union _).sheds.congr (fun x => ?_)).leftWithout⟩
    rw [taken_iff_exists]
    constructor
    · intro given
      obtain ⟨_, listed, taken⟩ := given
      obtain ⟨record, matching, rfl⟩ := List.mem_map.mp listed
      exact ⟨record, matching, taken⟩
    · intro given
      obtain ⟨record, matching, taken⟩ := given
      exact ⟨record.id, List.mem_map_of_mem matching, taken⟩

/-- Records stand under their own identifiers where the entries of the arena say so. -/
theorem keyed_of_entries (own : ∀ entry ∈ context.view.entries, entry.2.id = entry.1)
    : Keyed context.record? := by
  intro id record found
  rw [← Context.get?_view] at found
  exact own _ (Table.get?_eq_some_iff.mp found)

/-- A record of the nodes below, with its next nodes and the nodes that it only sees. -/
private def node (number : UInt64) (entity : String) (next sees : List UInt64) : Record :=
  ((Record.new ⟨number⟩ entity).setRelated "next" (next.map ObjectId.mk)).setRelated "sees"
    (sees.map ObjectId.mk)

/-- Two nodes on a cycle with a member that is listed twice and one that is not there, a member that
they share with a fourth node, and a node of an entity that the schema does not know. -/
private def ring : Context :=
  .ofArena
    (.ofList
      ([node 1 "Node" [2, 2, 9] [], node 2 "Node" [1, 3] [4], node 3 "Node" [5] [],
        node 4 "Node" [3] [2, 3, 6], node 5 "Other" [4] [], node 6 "Node" [] []].map
        (fun record => (record.id, record))))
    { modelName := "Graph"
      entities := [((EntityDescriptor.new "Node").relate "Node" "next" 0 .cascade).relate "Node"
        "sees" 0 .nullify] }
    7

/-- On the ring, deletions are exact; deleting its first node takes the cycle and what hangs on it. -/
theorem ring_deletion_exact
    : Keyed ring.record?
      ∧ DeletesExactly ring
      ∧ (ring.delete ⟨1⟩).view.values = [node 4 "Node" [] [6], node 6 "Node" [] []] := by
  have keyed : Keyed ring.record? := keyed_of_entries (by decide +kernel)
  exact ⟨keyed, deletion_exact keyed, by decide +kernel⟩

end EntityStore
