import EntityStore.Proofs.Forest.Deletion
import EntityStore.Query

/-! Operations of a job, on a context and on a plain table of records.
A draft is what a context stands for: one table that every operation writes to at once, beside the
arena that a rollback goes back to. Nothing in it is pending, and nothing is kept of what a write has
replaced.
-/

namespace EntityStore

-----------------------------------------------------------------------------------------
-- Operations
-----------------------------------------------------------------------------------------

/-- What a job may do to its context, besides reading. -/
inductive Operation where
  | insert (entity : String)
  | setValue (id : ObjectId) (key : String) (value : Option Value)
  | setRelated (id : ObjectId) (key : String) (ids : List ObjectId)
  | delete (id : ObjectId)
  | rollback

/-- The context after an operation. -/
def Context.perform (context : Context) : Operation → Attempt Context
  | .insert entity => do return (← context.insert entity).2
  | .setValue id key value => pure (context.setValue id key value)
  | .setRelated id key ids => pure (context.setRelated id key ids)
  | .delete id => pure (context.delete id)
  | .rollback => pure context.rollback

/-- The context after several operations, one after another. -/
def Context.performAll (context : Context) (operations : List Operation) : Attempt Context :=
  operations.foldlM Context.perform context

/-- The job that performs operations. -/
def Job.perform (operations : List Operation) : Job Unit := fun context => do
  let after ← context.performAll operations
  pure ((), after)

/-- A job does nothing to its context but operations. Which ones may depend on what it reads. -/
def Job.Operates {α : Type} (job : Job α) : Prop :=
  ∀ context answer after,
    job context = .ok (answer, after) → ∃ operations, context.performAll operations = .ok after

theorem Job.perform_operates (operations : List Operation) : (Job.perform operations).Operates := by
  intro context answer after answers
  refine ⟨operations, ?_⟩
  unfold Job.perform at answers
  cases outcome : context.performAll operations with
  | error abort =>
      rw [outcome] at answers
      contradiction
  | ok after' =>
      rw [outcome] at answers
      cases answers
      rfl

/-- Deleting a record leaves everything but the pending records alone.
Witness: induction on the depth.
-/
theorem Context.sameFrame_delete (context : Context) (id : ObjectId)
    : SameFrame context (context.delete id) := by
  have within (depth : Nat) : ∀ context id, SameFrame context (deleteWithin depth id context) := by
    induction depth with
    | zero => exact fun context _ => .refl context
    | succ depth ih =>
        intro context id
        unfold deleteWithin
        split
        · exact .refl context
        · exact List.foldlRecOn _ _ (context.sameFrame_takeOut id)
            (fun _ frame target _ => frame.trans (ih _ target))
  exact within _ context id

/-- Operations write to pending records, whatever they are. -/
theorem Context.committed_of_performAll {context after : Context} {operations : List Operation}
    (performed : context.performAll operations = .ok after)
    : after.committed = context.committed := by
  induction operations generalizing context with
  | nil =>
      cases performed
      rfl
  | cons operation operations ih =>
      unfold performAll at performed
      rw [List.foldlM_cons] at performed
      cases first : context.perform operation with
      | error abort =>
          rw [first] at performed
          contradiction
      | ok middle =>
          rw [first] at performed
          refine (ih performed).trans ?_
          cases operation with
          | insert entity =>
              rcases context.insert_cases entity with ⟨_, stops⟩ | ⟨_, _, answers, inserted⟩
              · rw [perform, stops] at first
                contradiction
              · rw [perform, answers] at first
                cases first
                exact inserted.committed
          | setValue id key value =>
              cases first
              exact (context.sameFrame_setValue id key value).committed
          | setRelated id key ids =>
              cases first
              exact (context.sameFrame_setRelated id key ids).committed
          | delete id =>
              cases first
              exact (context.sameFrame_delete id).committed
          | rollback =>
              cases first
              rfl

/-- A job of operations leaves the committed records to the commit. -/
theorem Job.Operates.committed {α : Type} {job : Job α} (operates : job.Operates)
    {context after : Context} {answer : α} (answers : job context = .ok (answer, after))
    : after.committed = context.committed := by
  obtain ⟨operations, performed⟩ := operates _ _ _ answers
  exact Context.committed_of_performAll performed

-----------------------------------------------------------------------------------------
-- Plain tables of records
-----------------------------------------------------------------------------------------

/-- The members that are deleted with a record, in the order of its relationships. -/
def Schema.cascading (schema : Schema) (record : Record) : List ObjectId :=
  match schema.entity? record.entity with
  | some descriptor => descriptor.cascadingKeys.flatMap record.related
  | none => []

namespace Arena

/-- Rewrites the record of an identifier. -/
def rewrite (arena : Arena) (id : ObjectId) (f : Record → Record) : Arena :=
  arena.set id ((arena.get? id).map f)

/-- The records that are left when one is removed. -/
def takeOut (arena : Arena) (id : ObjectId) : Arena :=
  (arena.erase id).filterMap (fun _ record => some (record.without id))

/-- Removes a record and then what is deleted with it, to a certain depth. -/
def deleteWithin (schema : Schema) : Nat → ObjectId → Arena → Arena
  | 0, _, arena => arena
  | depth + 1, id, arena =>
      match arena.get? id with
      | none => arena
      | some record =>
          (schema.cascading record).foldl
            (fun arena target => deleteWithin schema depth target arena) (arena.takeOut id)

/-- Removes a record and what is deleted with it. -/
def delete (schema : Schema) (arena : Arena) (id : ObjectId) : Arena :=
  deleteWithin schema arena.values.length id arena

/-- The records of an entity that match, in order. -/
def fetch (sorting : Sorting) (arena : Arena) (entity : String) (predicate : Predicate)
    (sort : List SortDescriptor)
    : Attempt (List Record) :=
  sortRecords sorting arena.source sort
    (arena.values.filter
      (fun record => record.entity = entity && predicate.evaluate arena.source record))

theorem get?_rewrite (arena : Arena) (id x : ObjectId) (f : Record → Record)
    : (arena.rewrite id f).get? x = if x = id then (arena.get? id).map f else arena.get? x :=
  Table.get?_set arena id x _

theorem get?_takeOut (arena : Arena) (id x : ObjectId)
    : (arena.takeOut id).get? x
      = if x = id then none else (arena.get? x).map (·.without id) := by
  rw [takeOut, Table.get?_filterMap, Table.get?_erase]
  split
  · rfl
  · cases arena.get? x <;> rfl

end Arena

/-- A table of records that is written to in place, and the arena that a rollback goes back to. -/
structure Draft where
  start : Arena
  schema : Schema
  records : Arena
  nextId : UInt64

namespace Draft

/-- The draft that nothing was written to. -/
def ofArena (start : Arena) (schema : Schema) (nextId : UInt64) : Draft :=
  { start, schema, records := start, nextId }

/-- The draft after an operation. -/
def perform (draft : Draft) : Operation → Attempt Draft
  | .insert entity =>
      if draft.nextId.toNat + 1 = UInt64.size then
        Attempt.panic "attempt to add with overflow"
      else
        let id := ObjectId.mk draft.nextId
        let record := (Context.ofArena draft.start draft.schema draft.nextId).fresh id entity
        pure { draft with nextId := draft.nextId + 1, records := draft.records.insert id record }
  | .setValue id key value =>
      pure { draft with records := draft.records.rewrite id (·.setValue key value) }
  | .setRelated id key ids =>
      pure { draft with records := draft.records.rewrite id (Context.reset key ids) }
  | .delete id => pure { draft with records := draft.records.delete draft.schema id }
  | .rollback => pure { draft with records := draft.start }

/-- The draft after several operations, one after another. -/
def performAll (draft : Draft) (operations : List Operation) : Attempt Draft :=
  operations.foldlM Draft.perform draft

end Draft

-----------------------------------------------------------------------------------------
-- A context and its draft
-----------------------------------------------------------------------------------------

/-- The draft holds what the context shows. -/
structure Mirrors (context : Context) (draft : Draft) : Prop where
  committed : context.committed = draft.start
  schema : context.schema = draft.schema
  nextId : context.nextId = draft.nextId
  records : context.view = draft.records
  keyed : Keyed context.record?
  keyedStart : Keyed context.committed.get?

namespace Mirrors

variable {context after : Context} {draft : Draft}

/-- A context that nothing was written to shows the committed records. -/
theorem ofArena {start : Arena} (keyed : Keyed start.get?) (schema : Schema) (nextId : UInt64)
    : Mirrors (.ofArena start schema nextId) (.ofArena start schema nextId) :=
  ⟨rfl, rfl, rfl, rfl, keyed, keyed⟩

/-- Both change in the same way when a record is written and nothing else. -/
theorem write (mirrors : Mirrors context draft) (frame : context.SameFrame after)
    {records : Arena} (same : after.view = records) (keyed : Keyed after.record?)
    : Mirrors after { draft with records } :=
  ⟨frame.committed.trans mirrors.committed, frame.schema.trans mirrors.schema,
    frame.nextId.trans mirrors.nextId, same, keyed, frame.committed ▸ mirrors.keyedStart⟩

/-- Rewriting a live record through the context is rewriting it in place. -/
theorem rewrite (mirrors : Mirrors context draft) (frame : context.SameFrame after)
    {id : ObjectId} {f : Record → Record} (own : ∀ record, (f record).id = record.id)
    (written
      : ∀ x, after.record? x = if x = id then (context.record? id).map f else context.record? x)
    : Mirrors after { draft with records := draft.records.rewrite id f } := by
  refine mirrors.write frame (Table.ext_get? (fun x => ?_)) (fun {x record} found => ?_)
  · rw [Context.get?_view, written, Arena.get?_rewrite, ← mirrors.records, Context.get?_view,
      Context.get?_view]
  · rw [written] at found
    split at found
    · next same =>
        obtain ⟨before, present, rfl⟩ := Option.map_eq_some_iff.mp found
        rw [own, same]
        exact mirrors.keyed present
    · exact mirrors.keyed found

/-- Taking a record out of sight is removing it from what is seen. -/
theorem takeOut (mirrors : Mirrors context draft) (id : ObjectId)
    : Mirrors (context.takeOut id) { draft with records := draft.records.takeOut id } := by
  refine mirrors.write (context.sameFrame_takeOut id) (Table.ext_get? (fun x => ?_))
    (fun {x record'} found => ?_)
  · rw [Context.get?_view, Context.record?_takeOut mirrors.keyed, Arena.get?_takeOut,
      ← mirrors.records, Context.get?_view]
  · obtain ⟨_, record, present, rfl⟩ := Context.found_of_takeOut mirrors.keyed found
    rw [Record.without_id]
    exact mirrors.keyed present

/-- A deletion to any depth is the same deletion on the plain table.
Witness: induction on the depth, and on the members that are deleted one after another.
-/
theorem deleteWithin (mirrors : Mirrors context draft) (depth : Nat) (id : ObjectId)
    : Mirrors (Context.deleteWithin depth id context)
        { draft with records := Arena.deleteWithin draft.schema depth id draft.records } := by
  induction depth generalizing context draft id with
  | zero => exact mirrors
  | succ depth ih =>
      have each (targets : List ObjectId) {context : Context} {draft : Draft}
          (mirrors : Mirrors context draft)
          : Mirrors
              (targets.foldl (fun context target => Context.deleteWithin depth target context) context)
              { draft with
                records := targets.foldl
                  (fun arena target => Arena.deleteWithin draft.schema depth target arena)
                  draft.records } := by
        induction targets generalizing context draft with
        | nil => exact mirrors
        | cons target targets rest => exact rest (ih mirrors target)
      have found : draft.records.get? id = context.record? id := by
        rw [← mirrors.records, Context.get?_view]
      unfold Context.deleteWithin Arena.deleteWithin
      rw [found]
      cases context.record? id with
      | none => exact mirrors
      | some record =>
          have members : context.cascading record = draft.schema.cascading record := by
            rw [← mirrors.schema]
            rfl
          dsimp only
          rw [members]
          exact each (draft.schema.cascading record) (mirrors.takeOut id)

/-- Forgetting what was written shows the committed records again. -/
theorem rollback (mirrors : Mirrors context draft)
    : Mirrors context.rollback { draft with records := draft.start } :=
  ⟨mirrors.committed, mirrors.schema, mirrors.nextId, mirrors.committed, mirrors.keyedStart,
    mirrors.keyedStart⟩

/-- A new record under the next identifier is the same on both sides. -/
theorem insert (mirrors : Mirrors context draft) (entity : String)
    : let id := ObjectId.mk context.nextId
      Mirrors
        { context with
          nextId := context.nextId + 1
          pending := context.pending.insert id (some (context.fresh id entity)) }
        (let id := ObjectId.mk draft.nextId
         let record := (Context.ofArena draft.start draft.schema draft.nextId).fresh id entity
         { draft with nextId := draft.nextId + 1, records := draft.records.insert id record }) := by
  intro id
  have same : (Context.ofArena draft.start draft.schema context.nextId).fresh id entity
      = context.fresh id entity := by
    rw [← mirrors.schema]
    rfl
  have written (x : ObjectId)
      : Context.record?
          { context with
            nextId := context.nextId + 1
            pending := context.pending.insert id (some (context.fresh id entity)) } x
        = if x = id then some (context.fresh id entity) else context.record? x := by
    by_cases here : x = id <;> simp [Context.record?, Table.get?_insert, here]
  refine ⟨mirrors.committed, mirrors.schema, ?_, Table.ext_get? (fun x => ?_),
    fun {x record} found => ?_, mirrors.keyedStart⟩
  · dsimp only
    rw [mirrors.nextId]
  · dsimp only
    rw [Context.get?_view, written, ← mirrors.nextId, same, Table.get?_insert, ← mirrors.records,
      Context.get?_view]
  · rw [written] at found
    split at found
    · next here =>
        rw [← Option.some.inj found, here]
        exact (context.fresh_spec id entity).1
    · exact mirrors.keyed found

/-- An operation ends alike on a context and on its draft, and leaves one the draft of the other. -/
theorem perform (mirrors : Mirrors context draft) (operation : Operation)
    : (∃ after draft',
        context.perform operation = .ok after
        ∧ draft.perform operation = .ok draft'
        ∧ Mirrors after draft')
      ∨ ∃ message,
          context.perform operation = .error (.panic message)
          ∧ draft.perform operation = .error (.panic message) := by
  cases operation with
  | insert entity =>
      by_cases full : context.nextId.toNat + 1 = UInt64.size
      · refine Or.inr ⟨some "attempt to add with overflow", ?_, if_pos (mirrors.nextId ▸ full)⟩
        have stops : context.insert entity = .error (.panic _) := if_pos full
        rw [Context.perform, stops]
        rfl
      · refine Or.inl ⟨_, _, ?_, if_neg (mirrors.nextId ▸ full), mirrors.insert entity⟩
        have answers : context.insert entity = .ok _ := if_neg full
        rw [Context.perform, answers]
        rfl
  | setValue id key value =>
      refine Or.inl ⟨_, _, rfl, rfl, ?_⟩
      exact mirrors.rewrite (context.sameFrame_setValue id key value) (fun _ => rfl)
        (fun x => context.record?_setValue id x key value)
  | setRelated id key ids =>
      refine Or.inl ⟨_, _, rfl, rfl, ?_⟩
      exact mirrors.rewrite (context.sameFrame_setRelated id key ids) (Context.reset_id key ids)
        (fun x => context.record?_setRelated id x key ids)
  | delete id =>
      refine Or.inl ⟨_, _, rfl, rfl, ?_⟩
      have bound : context.live.length = draft.records.values.length := by
        rw [Context.live, mirrors.records]
      unfold Context.delete Arena.delete
      rw [bound]
      exact mirrors.deleteWithin _ id
  | rollback => exact Or.inl ⟨_, _, rfl, rfl, mirrors.rollback⟩

/-- Operations in any order end alike on a context and on its draft.
Witness: induction on the operations.
-/
theorem performAll (mirrors : Mirrors context draft) (operations : List Operation)
    : (∃ after draft',
        context.performAll operations = .ok after
        ∧ draft.performAll operations = .ok draft'
        ∧ Mirrors after draft')
      ∨ ∃ message,
          context.performAll operations = .error (.panic message)
          ∧ draft.performAll operations = .error (.panic message) := by
  induction operations generalizing context draft with
  | nil => exact Or.inl ⟨context, draft, rfl, rfl, mirrors⟩
  | cons operation operations ih =>
      unfold Context.performAll Draft.performAll
      rw [List.foldlM_cons, List.foldlM_cons]
      rcases mirrors.perform operation with ⟨middle, draft', first, first', later⟩ | ⟨_, first, first'⟩
      · rw [first, first']
        exact ih later
      · rw [first, first']
        exact Or.inr ⟨_, rfl, rfl⟩

end Mirrors

end EntityStore
