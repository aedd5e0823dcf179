import EntityStore.Proofs.Forest.Confined

/-! Deletion keeps the forest and is confined to a tree.
Deleting a record takes it out of the one relation that may hold it and goes on with its members. What
is neither reached from the record nor holds it stays as it is, whatever the rules of the schema.
-/

namespace EntityStore

variable {types : Model} {context : Context}

-----------------------------------------------------------------------------------------
-- One record
-----------------------------------------------------------------------------------------

/-- A record after an identifier was taken out of every relation. -/
def Record.without (id : ObjectId) (record : Record) : Record :=
  if record.references id then record.detach id else record

namespace Record

@[simp] theorem without_id (id : ObjectId) (record : Record)
    : (record.without id).id = record.id := by
  unfold without
  split <;> rfl

@[simp] theorem without_entity (id : ObjectId) (record : Record)
    : (record.without id).entity = record.entity := by
  unfold without
  split <;> rfl

@[simp] theorem without_attributes (id : ObjectId) (record : Record)
    : (record.without id).attributes = record.attributes := by
  unfold without
  split <;> rfl

theorem related_without (id : ObjectId) (record : Record) (key : String)
    : (record.without id).related key = (record.related key).filter (· ≠ id) := by
  unfold without
  split
  · exact related_detach record id key
  · next free =>
      rw [references_iff] at free
      refine (List.filter_eq_self.mpr (fun member inside => ?_)).symm
      simp only [decide_eq_true_eq]
      intro same
      obtain rfl := same
      exact free ⟨key, inside⟩

/-- A relation that is left without members is not kept. -/
theorem filled_without {id : ObjectId} {record : Record} {key : String}
    (filled : record.relations.get? key ≠ some [])
    : (record.without id).relations.get? key ≠ some [] := by
  unfold without
  split
  · rw [get?_detach]
    intro same
    obtain ⟨ids, _, left⟩ := Option.bind_eq_some_iff.mp same
    split at left
    · contradiction
    · next full =>
        rw [Option.some.inj left] at full
        exact full rfl
  · exact filled

theorem without_of_not_references {id : ObjectId} {record : Record}
    (free : ∀ key, id ∉ record.related key)
    : record.without id = record := by
  unfold without
  rw [if_neg]
  rw [references_iff]
  intro link
  obtain ⟨key, inside⟩ := link
  exact free key inside

end Record

/-- A record is taken out of sight and out of every relation. -/
def Context.takeOut (context : Context) (id : ObjectId) : Context :=
  (context.remove id).detachAll id

theorem Context.record?_takeOut (keyed : Keyed context.record?) (id x : ObjectId)
    : (context.takeOut id).record? x
      = if x = id then none else (context.record? x).map (·.without id) := by
  have still : Keyed (context.remove id).record? := by
    intro y record found
    rw [Context.record?_remove] at found
    split at found
    · contradiction
    · exact keyed found
  rw [takeOut, Context.record?_detachAll still, Context.record?_remove]
  split
  · rfl
  · rfl

theorem Context.sameFrame_takeOut (context : Context) (id : ObjectId)
    : SameFrame context (context.takeOut id) :=
  (sameFrame_remove context id).trans (sameFrame_detachAll _ id)

section TakeOut

variable {id : ObjectId}

/-- A record that is left was there before, without the identifier that is taken out. -/
theorem Context.found_of_takeOut (keyed : Keyed context.record?) {x : ObjectId}
    {record' : Record} (found : (context.takeOut id).record? x = some record')
    : x ≠ id ∧ ∃ record, context.record? x = some record ∧ record' = record.without id := by
  rw [record?_takeOut keyed] at found
  split at found
  · contradiction
  · next other =>
      obtain ⟨record, present, rfl⟩ := Option.map_eq_some_iff.mp found
      exact ⟨other, record, present, rfl⟩

theorem Context.holds_of_takeOut (keyed : Keyed context.record?) {owner key member}
    (held : Holds (context.takeOut id).record? owner key member)
    : member ≠ id ∧ Holds context.record? owner key member := by
  obtain ⟨record', found, inside⟩ := held
  obtain ⟨_, record, present, rfl⟩ := found_of_takeOut keyed found
  rw [Record.related_without, List.mem_filter, decide_eq_true_eq] at inside
  exact ⟨inside.2, record, present, inside.1⟩

/-- Taking out one record keeps the forest. -/
theorem Forest.takeOut (forest : Forest types context) (id : ObjectId)
    : Forest types (context.takeOut id) := by
  have found_of {x : ObjectId} {record' : Record}
      (found : (context.takeOut id).record? x = some record') :=
    Context.found_of_takeOut forest.keyed found
  have holds_of {owner key member}
      (held : Holds (context.takeOut id).record? owner key member) :=
    Context.holds_of_takeOut forest.keyed held
  refine { keyed := ?_, bounded := ?_, declared := ?_, single := ?_, filled := ?_,
           increasing := ?_, sole := ?_, nodup := ?_ }
  · intro x record' found
    obtain ⟨_, record, present, rfl⟩ := found_of found
    rw [Record.without_id]
    exact forest.keyed present
  · intro x record' found
    obtain ⟨_, record, present, rfl⟩ := found_of found
    rw [(Context.sameFrame_takeOut context id).nextId]
    exact forest.bounded present
  · intro owner record' key member found inside
    have other := (holds_of ⟨record', found, inside⟩).1
    obtain ⟨_, record, present, rfl⟩ := found_of found
    rw [Record.related_without] at inside
    obtain ⟨field, known, keys, target, kind, found', live, typed⟩ :=
      forest.declared present (List.mem_filter.mp inside).1
    refine ⟨field, by rwa [Record.without_entity], keys, target, kind, found'.without id, ?_, ?_⟩
    · rw [Context.record?_takeOut forest.keyed, if_neg other, live, Option.map_some]
    · rw [Record.without_entity]
      exact typed
  · intro owner record' field found known toOne
    obtain ⟨_, record, present, rfl⟩ := found_of found
    rw [Record.without_entity] at known
    rw [Record.related_without]
    exact Nat.le_trans (List.length_filter_le _ _) (forest.single present known toOne)
  · intro owner record' key found
    obtain ⟨_, record, present, rfl⟩ := found_of found
    exact Record.filled_without (forest.filled present)
  · intro owner member link
    obtain ⟨key, held⟩ := link
    exact forest.increasing ⟨key, (holds_of held).2⟩
  · intro owner owner' key key' member held held'
    exact forest.sole (holds_of held).2 (holds_of held').2
  · intro owner record' key found
    obtain ⟨_, record, present, rfl⟩ := found_of found
    rw [Record.related_without]
    exact (forest.nodup present).sublist List.filter_sublist

/-- Taking out one record touches it and the record that holds it. -/
theorem Confined.takeOut (forest : Forest types context) (id : ObjectId)
    : Confined types (fun x => x = id ∨ Linked context.record? x id) context
        (context.takeOut id) := by
  have frame := Context.sameFrame_takeOut context id
  refine { committed := frame.committed
           schema := frame.schema
           nextId_le := Nat.le_of_eq (congrArg _ frame.nextId.symm)
           frame := ?_
           survivor := ?_
           inherits := ?_
           incomplete := ?_ }
  · intro x _ untouched
    rw [not_or] at untouched
    rw [Context.record?_takeOut forest.keyed, if_neg untouched.1]
    cases found : context.record? x with
    | none => rfl
    | some record =>
        rw [Option.map_some, Record.without_of_not_references]
        exact fun key inside => untouched.2 ⟨key, record, found, inside⟩
  · intro x record' _ found
    obtain ⟨_, record, present, rfl⟩ := Context.found_of_takeOut forest.keyed found
    exact ⟨record, present, Record.without_entity id record⟩
  · intro owner key member _ held
    exact (Context.holds_of_takeOut forest.keyed held).2
  · intro x incomplete
    obtain ⟨record', found, lacking⟩ := incomplete
    obtain ⟨_, record, present, rfl⟩ := Context.found_of_takeOut forest.keyed found
    refine ⟨record, present, fun complete => lacking ?_⟩
    intro field known stored
    rw [Record.without_entity] at known
    simpa only [Record.value?, Record.without_attributes] using complete field known stored

end TakeOut

-----------------------------------------------------------------------------------------
-- Trees
-----------------------------------------------------------------------------------------

/-- The identifiers that deleting a record may touch: its tree and the record that holds it. -/
def Doomed (source : RecordSource) (id x : ObjectId) : Prop :=
  Reaches source id x ∨ Linked source x id

theorem Doomed.of_member {id member x : ObjectId} (forest : Forest types context)
    (link : Linked context.record? id member) (doomed : Doomed context.record? member x)
    : Reaches context.record? id x := by
  rcases doomed with path | ⟨key, held⟩
  · exact path.head link
  · obtain ⟨key', held'⟩ := link
    rw [(forest.sole held held').1]
    exact .refl

/-- A deletion after confined writes is doomed from the start. -/
theorem Doomed.earlier {touched : ObjectId → Prop} {after : Context} {id x : ObjectId}
    (forest : Forest types context) (confined : Confined types touched context after)
    (known : id.rank < context.nextId.toNat) (old : x.rank < context.nextId.toNat)
    (doomed : Doomed after.record? id x)
    : Doomed context.record? id x := by
  rcases doomed with path | ⟨key, held⟩
  · exact Or.inl (confined.reaches forest old path)
  · exact Or.inr ⟨key, confined.inherits known held⟩

/-- A context after deletions: still a forest, with everything the same apart from what they touch. -/
structure Pruned (types : Model) (touched : ObjectId → Prop) (context after : Context)
    : Prop where
  forest : Forest types after
  confined : Confined types touched context after
  frame : Context.SameFrame context after

/-- Deleting several records one after another touches what each of them dooms at the start, provided
that deleting one does.
Witness: induction on the list; every later deletion sees a part of the earlier forest.
-/
theorem Pruned.foldl (step : Context → ObjectId → Context) (ids : List ObjectId)
    (prunes
      : ∀ context id,
          Forest types context
          → Pruned types (Doomed context.record? id) context (step context id))
    (context : Context) (forest : Forest types context)
    : Pruned types (fun x => ∃ id ∈ ids, Doomed context.record? id x) context
        (ids.foldl step context) := by
  induction ids generalizing context with
  | nil => exact ⟨forest, .refl _ _, .refl context⟩
  | cons id rest ih =>
      have first := prunes context id forest
      have later := ih (step context id) first.forest
      refine ⟨later.forest, ?_, first.frame.trans later.frame⟩
      refine (first.confined.mono (fun x _ doomed => ⟨id, List.mem_cons_self, doomed⟩)).trans
        later.confined ?_
      intro x old dooms
      obtain ⟨target, inside, doomed⟩ := dooms
      refine ⟨target, List.mem_cons_of_mem id inside, ?_⟩
      rcases doomed with path | ⟨key, held⟩
      · exact Or.inl (first.confined.reaches forest old path)
      · have known := first.forest.rank_lt_of_linked ⟨key, held⟩
        rw [first.frame.nextId] at known
        exact Or.inr ⟨key, first.confined.inherits known held⟩

/-- Deletion goes on to members of the record only. -/
theorem linked_of_cascading {id member : ObjectId} {record : Record}
    (found : context.record? id = some record) (inside : member ∈ context.cascading record)
    : Linked context.record? id member := by
  unfold Context.cascading at inside
  split at inside
  · obtain ⟨key, _, inside⟩ := List.mem_flatMap.mp inside
    exact ⟨key, record, found, inside⟩
  · contradiction

/-- Deleting to any depth keeps the forest and touches the tree of the record and its holder.
Witness: induction on the depth; the members of a record that was taken out are in its tree, and
nothing but the record has held them.
-/
theorem pruned_deleteWithin (depth : Nat) (id : ObjectId) (context : Context)
    (forest : Forest types context)
    : Pruned types (Doomed context.record? id) context
        (Context.deleteWithin depth id context) := by
  induction depth generalizing id context with
  | zero => exact ⟨forest, .refl _ _, .refl context⟩
  | succ depth ih =>
      unfold Context.deleteWithin
      cases found : context.record? id with
      | none => exact ⟨forest, .refl _ _, .refl context⟩
      | some record =>
          have out := Confined.takeOut forest id
          have frame := Context.sameFrame_takeOut context id
          have rest := Pruned.foldl
            (fun context target => Context.deleteWithin depth target context)
            (context.cascading record) (fun context target => ih target context)
            (context.takeOut id) (forest.takeOut id)
          refine ⟨rest.forest, ?_, frame.trans rest.frame⟩
          refine (out.mono (fun x _ => ?_)).trans rest.confined ?_
          · exact Or.imp_left (fun same => same ▸ Relation.ReflTransGen.refl)
          · intro x old dooms
            obtain ⟨member, inside, doomed⟩ := dooms
            have link := linked_of_cascading found inside
            exact Or.inl (Doomed.of_member forest link
              (doomed.earlier forest out (forest.rank_lt_of_linked link) old))

/-- Deleting a record keeps the forest and touches its tree and its holder. -/
theorem pruned_delete (id : ObjectId) (context : Context) (forest : Forest types context)
    : Pruned types (Doomed context.record? id) context (context.delete id) :=
  pruned_deleteWithin _ id context forest

/-- Deleting several records keeps the forest and touches their trees and their holders. -/
theorem pruned_foldl_delete (ids : List ObjectId) (context : Context)
    (forest : Forest types context)
    : Pruned types (fun x => ∃ id ∈ ids, Doomed context.record? id x) context
        (ids.foldl Context.delete context) :=
  Pruned.foldl _ ids (fun context id => pruned_delete id context) context forest

end EntityStore
