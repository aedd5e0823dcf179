import EntityStore.Proofs.Batch.Upsert
import EntityStore.Proofs.Service.Lawful
import EntityStore.Store.Basic

/-! Runs of a store.
A store is driven by calls in any order. What a job writes is committed as a whole or not at all, so
what holds of the records before and after every job holds of the committed records all along.
-/

namespace EntityStore

variable {types : Model} {context : Context} {store : Store}

-----------------------------------------------------------------------------------------
-- Commits
-----------------------------------------------------------------------------------------

/-- Where a commit would touch nothing, a job sees the committed records. -/
theorem Context.record?_of_unchanged (unchanged : context.changes.isEmpty = true) (id : ObjectId)
    : context.record? id = context.committed.get? id := by
  simp only [changes, ChangeSet.isEmpty, Bool.and_eq_true, List.isEmpty_iff,
    List.map_eq_nil_iff, List.filter_eq_nil_iff] at unchanged
  obtain ⟨⟨inserted, updated⟩, deleted⟩ := unchanged
  unfold record?
  cases pending : context.pending.get? id with
  | none => rfl
  | some now =>
      have entry := Table.get?_eq_some_iff.mp pending
      have inserted := inserted _ entry
      have updated := updated _ entry
      have deleted := deleted _ entry
      cases before : context.committed.get? id <;> cases now <;> simp_all

namespace Store

/-- The committed records are what the job saw at its end. -/
theorem commit_records (same : context.committed = store.records) (id : ObjectId)
    : (store.commit context).2.records.get? id = context.record? id := by
  dsimp only [commit]
  split
  · next unchanged =>
      rw [Context.record?_of_unchanged unchanged, same]
  · split <;> exact context.get?_view id

/-- A commit takes no identifiers and leaves the schema alone. -/
theorem commit_frame (store : Store) (context : Context)
    : (store.commit context).2.nextId = store.nextId
      ∧ (store.commit context).2.schema = store.schema := by
  dsimp only [commit]
  split
  · exact ⟨rfl, rfl⟩
  · split <;> exact ⟨rfl, rfl⟩

theorem commit_sorting (store : Store) (context : Context)
    : (store.commit context).2.sorting = store.sorting := by
  dsimp only [commit]
  split
  · rfl
  · split <;> rfl

section Run

variable {α : Type} {job : Job α} {answer : α} {after : Context}

/-- After a job has answered, the store holds what the job saw at its end. -/
theorem run_of_answer (running : store.running = true)
    (answers : job store.view = .ok (answer, after)) (same : after.committed = store.records)
    : (∀ id, (store.run job).2.2.view.record? id = after.record? id)
      ∧ (store.run job).2.2.nextId = after.nextId
      ∧ (store.run job).2.2.schema = store.schema := by
  let moved : Store := { store with nextId := after.nextId }
  have later : (store.run job).2.2 = (moved.commit after).2 := by
    unfold Store.run
    rw [if_pos running, answers]
  rw [later]
  exact ⟨commit_records same, moved.commit_frame after⟩

/-- A job that succeeds has run and answered. -/
theorem answer_of_success (success : (store.run job).1.isOk = true)
    : store.running = true ∧ ∃ answer after, job store.view = .ok (answer, after) := by
  unfold Store.run at success
  split at success
  · next running =>
      split at success
      · next result after answers =>
          dsimp only at success
          split at success
          · exact ⟨running, result, after, answers⟩
          · contradiction
      · contradiction
      · contradiction
  · contradiction

/-- A job that leaves the context as it was leaves the store as it was, and nothing is delivered. -/
theorem run_of_unchanged (answers : job store.view = .ok (answer, store.view))
    : (store.run job).2 = ([], store) := by
  unfold Store.run
  split
  · rw [answers]
    rfl
  · rfl

/-- No job changes the schema. -/
theorem run_schema (store : Store) (job : Job α) : (store.run job).2.2.schema = store.schema := by
  unfold Store.run
  split
  · split
    · exact (commit_frame _ _).2
    · rfl
    · rfl
  · rfl

/-- No job changes the way in which records are sorted. -/
theorem run_sorting (store : Store) (job : Job α)
    : (store.run job).2.2.sorting = store.sorting := by
  unfold Store.run
  split
  · split
    · exact commit_sorting _ _
    · rfl
    · rfl
  · rfl

/-- The worker is there, and nobody is watching. -/
structure Quiet (store : Store) : Prop where
  running : store.running = true
  unobserved : store.observers = []

/-- A commit that nobody is watching stays unnoticed. -/
theorem Quiet.commit (quiet : store.Quiet) (context : Context) : (store.commit context).2.Quiet := by
  dsimp only [Store.commit]
  split
  · exact quiet
  · rw [quiet.unobserved]
    exact ⟨quiet.running, rfl⟩

/-- Only the next identifier is not the store's when a job is committed. -/
private theorem Quiet.moved (quiet : store.Quiet) (after : Context)
    : (Store.commit { store with nextId := after.nextId } after).2.Quiet := by
  have moved : Quiet { store with nextId := after.nextId } := ⟨quiet.running, quiet.unobserved⟩
  exact moved.commit after

/-- A job that answers while nobody is watching succeeds. -/
theorem Quiet.success (quiet : store.Quiet) (answers : job store.view = .ok (answer, after))
    : (store.run job).1.isOk = true := by
  have later := (quiet.moved after).running
  unfold Store.run
  rw [if_pos quiet.running, answers]
  dsimp only
  rw [if_pos later]
  rfl

/-- A job that comes to an end leaves a quiet store quiet. -/
theorem Quiet.run (quiet : store.Quiet) {post : α → Context → Prop}
    (ensures : job.Ensures store.view post)
    : (store.run job).2.2.Quiet := by
  unfold Store.run
  rw [if_pos quiet.running]
  split
  · next answer after _ =>
      have later := quiet.moved after
      exact later
  · exact quiet
  · next stops =>
      obtain ⟨_, same⟩ := ensures.panic stops
      contradiction

end Run

end Store

-----------------------------------------------------------------------------------------
-- Sound stores
-----------------------------------------------------------------------------------------

/-- Soundness is a matter of the records that are seen and of the next identifier. -/
theorem Sound.congr {other : Context} (sound : Sound types context)
    (records : ∀ id, other.record? id = context.record? id) (next : other.nextId = context.nextId)
    : Sound types other := by
  have same : SameSkeletons context other := fun id => by rw [records]
  refine ⟨sound.forest.congr_skeletons same (Nat.le_of_eq (by rw [next])), ?_⟩
  intro id incomplete
  obtain ⟨record, found, lacking⟩ := incomplete
  exact sound.complete id ⟨record, (records id).symm.trans found, lacking⟩

/-- A job that leaves sound records leaves a sound store. -/
theorem Sound.run {α : Type} {job : Job α} (sound : Sound types store.view)
    (keeps
      : ∀ {answer after},
          job store.view = .ok (answer, after)
          → Sound types after ∧ after.committed = store.records)
    : Sound types (store.run job).2.2.view := by
  cases running : store.running with
  | false =>
      rw [Store.run, if_neg (by simp [running])]
      exact sound
  | true =>
      cases answers : job store.view with
      | ok result =>
          obtain ⟨answer, after⟩ := result
          obtain ⟨later, committed⟩ := keeps answers
          obtain ⟨records, next, _⟩ := Store.run_of_answer running answers committed
          exact later.congr records next
      | error abort =>
          rw [Store.run, if_pos running, answers]
          cases abort <;> exact sound

-----------------------------------------------------------------------------------------
-- Calls
-----------------------------------------------------------------------------------------

/-- What can be asked of a store. -/
inductive Call where
  | addOrUpdate (batch : Batch)
  | deleteAll (query : Query)
  | fetch (query : Query)
  | subscribe (subscription : Subscription)
  | unsubscribe (id : Nat)

/-- The call writes to the store and asks for nothing else. -/
def Call.isChange : Call → Bool
  | addOrUpdate _ => true
  | deleteAll _ => true
  | _ => false

namespace Store

/-- The store after a call. -/
def call (store : Store) : Call → Store
  | .addOrUpdate batch =>
      (store.addOrUpdate batch.service.model batch.type.name batch.objects).2
  | .deleteAll query => (store.deleteAll query).2
  | .fetch query => (store.execute query).2.2
  | .subscribe subscription => (store.subscribe subscription).2.2
  | .unsubscribe id => store.unsubscribe id

/-- The store after several calls. -/
def after (store : Store) (calls : List Call) : Store :=
  calls.foldl call store

end Store

/-- The objects of a batch are upserted, or the job gives up. -/
theorem Batch.ensures (batch : Batch) (sound : Sound Service.types context)
    : batch.job.Ensures context
        (fun _ after =>
          Upserts Service.types batch.service.model batch.type batch.objects
            (batch.type.found batch.objects context) context after) :=
  upsert_ensures batch.service.lawful batch.known batch.identifiable batch.objects batch.typed sound

/-- A batch of objects is upserted by its job. -/
theorem Store.call_batch (store : Store) (batch : Batch)
    : store.call (.addOrUpdate batch)
      = if batch.objects.isEmpty then store else (store.run batch.job).2.2 := by
  simp only [call, addOrUpdate, Batch.job, batch.service.lawful.named batch.type batch.known]
  split <;> rfl

/-- After a batch has succeeded, the store holds what the batch has left. -/
theorem Batch.upserts_of_success (batch : Batch) (sound : Sound Service.types store.view)
    (success : (store.run batch.job).1.isOk = true)
    : ∃ after,
        Upserts Service.types batch.service.model batch.type batch.objects
          (batch.type.found batch.objects store.view) store.view after
        ∧ (batch.objects ≠ [] → (store.call (.addOrUpdate batch)).view.record? = after.record?) := by
  obtain ⟨running, _, after, answers⟩ := Store.answer_of_success success
  have upserts := (batch.ensures sound).elim answers
  refine ⟨after, upserts, fun some => ?_⟩
  rw [Store.call_batch, if_neg (by simpa using some)]
  exact funext (Store.run_of_answer running answers upserts.confined.committed).1

/-- Asking for the objects of a query leaves the records alone. -/
theorem Query.after_of_fetch {query : Query} {sorting : Sorting} {objects : List Object}
    {after : Context} (answers : query.fetch sorting context = .ok (objects, after))
    : after = context := by
  change (query.answer sorting context).bind _ = _ at answers
  cases found : query.answer sorting context with
  | error abort =>
      rw [found] at answers
      contradiction
  | ok objects =>
      rw [found] at answers
      cases answers
      rfl

/-- Every call leaves a sound store. -/
theorem Sound.call (sound : Sound Service.types store.view) (call : Call)
    : Sound Service.types (store.call call).view := by
  cases call with
  | addOrUpdate batch =>
      rw [Store.call_batch]
      split
      · exact sound
      · refine sound.run (fun answers => ?_)
        have upserts := (batch.ensures sound).elim answers
        exact ⟨upserts.sound sound, upserts.confined.committed⟩
  | deleteAll query =>
      refine sound.run (fun {answer after} answers => ?_)
      cases answers
      refine ⟨sound.foldl_delete _, ?_⟩
      exact (pruned_foldl_delete _ store.view sound.forest).frame.committed
  | fetch query =>
      refine sound.run (fun answers => ?_)
      exact Query.after_of_fetch answers ▸ ⟨sound, rfl⟩
  | subscribe subscription =>
      simp only [Store.call, Store.subscribe]
      split
      · split <;> exact sound
      · exact sound
  | unsubscribe id => exact sound

/-- A store without records is sound. -/
theorem Sound.of_empty (empty : store.records = .empty) : Sound types store.view := by
  have none (id : ObjectId) : store.view.record? id = none := by
    show store.records.get? id = none
    rw [empty]
    rfl
  refine ⟨{ keyed := ?_, bounded := ?_, declared := ?_, single := ?_, filled := ?_,
            increasing := ?_, sole := ?_, nodup := ?_ }, ?_⟩
  · intro id record found
    simp [none] at found
  · intro id record found
    simp [none] at found
  · intro owner record key member found
    simp [none] at found
  · intro owner record field found
    simp [none] at found
  · intro owner record key found
    simp [none] at found
  · intro owner member link
    obtain ⟨key, record, found, _⟩ := link
    simp [none] at found
  · intro owner owner' key key' member held
    obtain ⟨record, found, _⟩ := held
    simp [none] at found
  · intro owner record key found
    simp [none] at found
  · intro id held
    obtain ⟨record, found, _⟩ := held
    simp [none] at found

/-- A store that was opened in memory and sorts by insertion. -/
def Store.opened (schema : Schema) : Store :=
  { schema, medium := .memory, records := .empty, nextId := 1, observers := [],
    nextSubscription := 1, running := true }

/-- Any calls in any order leave a store sound that was opened without records.
Witness: induction on the calls; each leaves a sound store.
-/
theorem Sound.after (empty : store.records = .empty) (calls : List Call)
    : Sound Service.types (store.after calls).view := by
  have sound : Sound Service.types store.view := .of_empty empty
  clear empty
  induction calls generalizing store with
  | nil => exact sound
  | cons call calls ih => exact ih (sound.call call)

/-- No calls change the schema. -/
theorem Store.after_schema (store : Store) (calls : List Call)
    : (store.after calls).schema = store.schema := by
  have call (store : Store) (call : Call) : (store.call call).schema = store.schema := by
    cases call with
    | addOrUpdate batch =>
        rw [call_batch]
        split
        · rfl
        · exact store.run_schema _
    | deleteAll query => exact store.run_schema _
    | fetch query => exact store.run_schema _
    | subscribe subscription =>
        simp only [Store.call, subscribe]
        split
        · split <;> rfl
        · rfl
    | unsubscribe id => rfl
  induction calls generalizing store with
  | nil => rfl
  | cons head calls ih => exact (ih (store.call head)).trans (call store head)

/-- Changes leave a quiet store quiet, where its records are sound. -/
theorem Store.Quiet.after (quiet : store.Quiet) (sound : Sound Service.types store.view)
    {calls : List Call} (changes : ∀ call ∈ calls, call.isChange = true)
    : (store.after calls).Quiet := by
  induction calls generalizing store with
  | nil => exact quiet
  | cons call calls ih =>
      refine ih ?_ (sound.call call) (fun other listed => changes other (.tail _ listed))
      have change := changes call List.mem_cons_self
      cases call with
      | addOrUpdate batch =>
          rw [Store.call_batch]
          split
          · exact quiet
          · exact quiet.run (batch.ensures sound)
      | deleteAll query =>
          have ends : query.deleteMatches.Ensures store.view (fun _ _ => True) := .write trivial
          exact quiet.run ends
      | _ => contradiction

end EntityStore
