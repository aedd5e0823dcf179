import EntityStore.Entity.Mapping
import EntityStore.Proofs.Context.Overlay

/-! What a job can tell about a context.
A job sees records, the schema and the next identifier. It never learns which of the records are pending
and which are committed, so on contexts that look alike it ends in the same way and leaves contexts that
look alike.
-/

namespace EntityStore

/-- What can be seen of a context. -/
structure Sight where
  /-- The records, pending or committed. -/
  record? : RecordSource
  schema : Schema
  nextId : UInt64

namespace Context

/-- What a job sees of a context. -/
def sight (context : Context) : Sight where
  record? := context.record?
  schema := context.schema
  nextId := context.nextId

variable {a b a' b' : Context}

theorem sight_eq_iff
    : a.sight = b.sight
      ↔ (∀ id, a.record? id = b.record? id) ∧ a.schema = b.schema ∧ a.nextId = b.nextId := by
  simp only [sight, Sight.mk.injEq, funext_iff]

-----------------------------------------------------------------------------------------
-- Reading
-----------------------------------------------------------------------------------------

/-- Contexts with the same records have them live in the same order. -/
theorem live_congr (records : a.record? = b.record?) : a.live = b.live := by
  refine congrArg Table.values (Table.ext_get? (fun id => ?_))
  rw [a.get?_view, b.get?_view, records]

theorem matching_congr (records : a.record? = b.record?) : a.matching = b.matching := by
  unfold matching
  rw [records, live_congr records]

theorem related_congr (records : a.record? = b.record?) : a.related = b.related := by
  unfold related
  rw [records]

theorem map_congr (records : a.record? = b.record?) : a.map = b.map := by
  unfold map mappingDepth
  rw [records, live_congr records]

-----------------------------------------------------------------------------------------
-- Writing
-----------------------------------------------------------------------------------------

/-- Writes that keep the frame are seen alike where their records are. -/
private theorem sight_of_frames (alike : a.sight = b.sight) (left : SameFrame a a')
    (right : SameFrame b b') (records : ∀ id, a'.record? id = b'.record? id)
    : a'.sight = b'.sight := by
  obtain ⟨_, schema, next⟩ := sight_eq_iff.mp alike
  refine sight_eq_iff.mpr ⟨records, ?_, ?_⟩
  · rw [left.schema, right.schema, schema]
  · rw [left.nextId, right.nextId, next]

theorem sight_modify (alike : a.sight = b.sight) (id : ObjectId) (f : Record → Record)
    : (a.modify id f).sight = (b.modify id f).sight := by
  refine sight_of_frames alike (sameFrame_modify a id f) (sameFrame_modify b id f) (fun x => ?_)
  simp only [record?_modify, (sight_eq_iff.mp alike).1]

theorem sight_setValue (alike : a.sight = b.sight) (id : ObjectId) (key : String)
    (value : Option Value)
    : (a.setValue id key value).sight = (b.setValue id key value).sight := by
  refine sight_of_frames alike (sameFrame_setValue a id key value) (sameFrame_setValue b id key value)
    (fun x => ?_)
  simp only [record?_setValue, (sight_eq_iff.mp alike).1]

theorem sight_setRelated (alike : a.sight = b.sight) (id : ObjectId) (key : String)
    (ids : List ObjectId)
    : (a.setRelated id key ids).sight = (b.setRelated id key ids).sight := by
  refine sight_of_frames alike (sameFrame_setRelated a id key ids) (sameFrame_setRelated b id key ids)
    (fun x => ?_)
  simp only [record?_setRelated, (sight_eq_iff.mp alike).1]

/-- A removed record is gone from sight, whether it was committed or not. -/
theorem sight_remove (alike : a.sight = b.sight) (id : ObjectId)
    : (a.remove id).sight = (b.remove id).sight := by
  refine sight_of_frames alike (sameFrame_remove a id) (sameFrame_remove b id) (fun x => ?_)
  simp only [record?_remove, (sight_eq_iff.mp alike).1]

/-- Several writes are seen alike where each of them is. -/
theorem sight_foldl {α : Type} {f : Context → α → Context}
    (each : ∀ {a b : Context}, a.sight = b.sight → ∀ item, (f a item).sight = (f b item).sight)
    (alike : a.sight = b.sight) (items : List α)
    : (items.foldl f a).sight = (items.foldl f b).sight := by
  induction items generalizing a b with
  | nil => exact alike
  | cons item items ih => exact ih (each alike item)

theorem sight_detachAll (alike : a.sight = b.sight) (id : ObjectId)
    : (a.detachAll id).sight = (b.detachAll id).sight := by
  have records : a.record? = b.record? := funext (sight_eq_iff.mp alike).1
  unfold detachAll
  rw [live_congr records]
  exact sight_foldl (fun alike holder => sight_modify alike holder.id _) alike _

/-- What is deleted with a record is deleted from both.
Witness: induction on the depth; what a record takes with it is told by the record and the schema.
-/
theorem sight_deleteWithin (alike : a.sight = b.sight) (depth : Nat) (id : ObjectId)
    : (deleteWithin depth id a).sight = (deleteWithin depth id b).sight := by
  induction depth generalizing a b id with
  | zero => exact alike
  | succ depth ih =>
      obtain ⟨records, schema, _⟩ := sight_eq_iff.mp alike
      rw [deleteWithin, deleteWithin, records id]
      cases b.record? id with
      | none => exact alike
      | some record =>
          have targets : a.cascading record = b.cascading record := by
            rw [cascading, cascading, schema]
          dsimp only
          rw [targets]
          exact sight_foldl (fun alike target => ih alike target)
            (sight_detachAll (sight_remove alike id) id) _

theorem sight_delete (alike : a.sight = b.sight) (id : ObjectId)
    : (a.delete id).sight = (b.delete id).sight := by
  have records : a.record? = b.record? := funext (sight_eq_iff.mp alike).1
  unfold delete
  rw [live_congr records]
  exact sight_deleteWithin alike _ id

end Context

-----------------------------------------------------------------------------------------
-- Jobs
-----------------------------------------------------------------------------------------

namespace Job

variable {α β : Type}

/-- How a job ends, as far as its context can be seen then. -/
def outcome (job : Job α) (context : Context) : Attempt (α × Sight) :=
  (job context).map (fun result => (result.1, result.2.sight))

/-- The job does not tell pending records from committed ones: it ends alike on contexts that look
alike. -/
def Oblivious (job : Job α) : Prop :=
  ∀ a b, a.sight = b.sight → job.outcome a = job.outcome b

/-- A job that does not tell contexts apart answers on one where it answers on the other. -/
theorem Oblivious.answer {job : Job α} {a b after : Context} {answer : α}
    (oblivious : job.Oblivious) (alike : a.sight = b.sight)
    (answers : job a = .ok (answer, after))
    : ∃ after', job b = .ok (answer, after') ∧ after'.sight = after.sight := by
  have same := oblivious a b alike
  unfold outcome at same
  rw [answers] at same
  cases outcome : job b with
  | error abort =>
      rw [outcome] at same
      cases same
  | ok result =>
      obtain ⟨answer', after'⟩ := result
      rw [outcome] at same
      simp only [Except.map, Except.ok.injEq, Prod.mk.injEq] at same
      obtain ⟨rfl, seen⟩ := same
      exact ⟨after', rfl, seen.symm⟩

theorem Oblivious.pure (answer : α) : (Pure.pure answer : Job α).Oblivious := by
  intro a b alike
  change Except.ok (answer, a.sight) = Except.ok (answer, b.sight)
  rw [alike]

theorem Oblivious.lift (attempt : Attempt α) : Job.Oblivious (attempt : Job α) := by
  cases attempt with
  | error abort => exact fun _ _ _ => rfl
  | ok answer => exact .pure answer

theorem Oblivious.bind {job : Job α} {next : α → Job β} (first : job.Oblivious)
    (later : ∀ answer, (next answer).Oblivious)
    : (job >>= next).Oblivious := by
  intro a b alike
  have run (context : Context)
      : (job >>= next) context
        = (job context).bind (fun result => next result.1 result.2) := rfl
  unfold outcome
  rw [run, run]
  cases answers : job a with
  | ok result =>
      obtain ⟨answer, after⟩ := result
      obtain ⟨after', answers', seen⟩ := first.answer alike answers
      rw [answers']
      exact later answer _ _ seen.symm
  | error abort =>
      have same := first a b alike
      unfold outcome at same
      rw [answers] at same
      cases outcome : job b with
      | error abort' =>
          rw [outcome] at same
          cases same
          rfl
      | ok result =>
          rw [outcome] at same
          cases same

/-- A job that looks at its context goes on alike on contexts that look alike. -/
theorem Oblivious.get_bind {next : Context → Job β}
    (alike : ∀ {a b : Context}, a.sight = b.sight → next a = next b)
    (later : ∀ context, (next context).Oblivious)
    : ((get : Job Context) >>= next).Oblivious := by
  intro a b same
  change (next a).outcome a = (next b).outcome b
  rw [alike same]
  exact later b a b same

theorem Oblivious.write {f : Context → Context}
    (alike : ∀ {a b : Context}, a.sight = b.sight → (f a).sight = (f b).sight)
    : (Job.write f).Oblivious := by
  intro a b same
  change Except.ok ((), (f a).sight) = Except.ok ((), (f b).sight)
  rw [alike same]

/-- A new record gets the next identifier and the defaults of the schema. -/
theorem Oblivious.insert (entity : String) : (Job.insert entity).Oblivious := by
  intro a b alike
  obtain ⟨records, schema, next⟩ := Context.sight_eq_iff.mp alike
  unfold outcome Job.insert Context.insert
  rw [next]
  split
  · rfl
  · have fresh : a.fresh ⟨b.nextId⟩ entity = b.fresh ⟨b.nextId⟩ entity := by
      rw [Context.fresh, Context.fresh, schema]
    refine congrArg (fun seen => Except.ok (_, seen))
      (Context.sight_eq_iff.mpr ⟨fun x => ?_, schema, rfl⟩)
    rw [fresh]
    by_cases same : x = ⟨b.nextId⟩
    · simp only [Context.record?, Table.get?_insert, same, if_true]
    · simp only [Context.record?, Table.get?_insert, same, if_false]
      exact records x

end Job

end EntityStore
