import EntityStore.Proofs.Context.Draft
import EntityStore.Proofs.Mapping.Outcome
import EntityStore.Proofs.Query.Sorting
import EntityStore.Proofs.Store.Run
import EntityStore.Service.Library

/-! Which requests a worker survives.
A job that gives up is undone, and the worker goes on. A job that answers is committed before the
observers see it, and an observer that gives up then takes the worker with it: whoever has asked for
the job learns of a closed worker, although its changes are kept, and nobody is served any more. So
an error says that nothing has happened, and the worker goes on, exactly where everything that is
watched can be sorted and maps.
-/

namespace EntityStore

-----------------------------------------------------------------------------------------
-- Observers
-----------------------------------------------------------------------------------------

/-- The mapping of a record to the objects of a query comes to an end and does not give up. Nothing is
said about whether there is an object. -/
def Query.Maps (query : Query) (view : Context) (record : Record) : Prop :=
  ∃ object?, (view.map query.model query.entity record).object? = .ok object?

/-- A query has its objects exactly where each of its records maps.
Witness: induction on the records; the first one that does not map ends it.
-/
theorem Query.objects_isOk_iff (query : Query) (view : Context) (records : List Record)
    : (∃ objects, query.objects view records = .ok objects)
      ↔ ∀ record ∈ records, query.Maps view record := by
  induction records with
  | nil => simp [Query.objects, pure, Except.pure]
  | cons record rest ih =>
      rw [List.forall_mem_cons, ← ih, Query.Maps, Query.objects]
      cases (view.map query.model query.entity record).object? with
      | error abort => simp [bind, Except.bind]
      | ok object? =>
          cases query.objects view rest <;> simp [bind, Except.bind, pure, Except.pure]

/-- Records come to the objects of a query: sorting them does not give up, and each of them maps. -/
def Query.Manages (query : Query) (sorting : Sorting) (view : Context) (records : List Record) : Prop :=
  (∃ sorted, sortRecords sorting view.record? query.sort records = .ok sorted)
  ∧ ∀ record ∈ records, query.Maps view record

/-- A query has the objects of sorted records exactly where it manages the records. -/
theorem Query.sorted_objects_isOk_iff (query : Query) (sorting : Sorting) (view : Context)
    (records : List Record)
    : (∃ objects,
        sortRecords sorting view.record? query.sort records >>= query.objects view = .ok objects)
      ↔ query.Manages sorting view records := by
  simp only [Mapping.attempt_bind_eq_ok_iff, Manages]
  constructor
  · rintro ⟨objects, sorted, sorts, answers⟩
    refine ⟨⟨sorted, sorts⟩, fun record listed => ?_⟩
    have listed' := (sortRecords_perm sorts).mem_iff.mpr listed
    exact (query.objects_isOk_iff view sorted).mp ⟨objects, answers⟩ record listed'
  · rintro ⟨⟨sorted, sorts⟩, maps⟩
    obtain ⟨objects, answers⟩ := (query.objects_isOk_iff view sorted).mpr
      (fun record listed => maps record ((sortRecords_perm sorts).mem_iff.mp listed))
    exact ⟨objects, sorted, sorts, answers⟩

/-- A query answers exactly where it manages the records that match. -/
theorem Query.answer_isOk_iff (query : Query) (sorting : Sorting) (view : Context)
    : (∃ objects, query.answer sorting view = .ok objects)
      ↔ query.Manages sorting view (view.matching query.entityName query.filter) :=
  query.sorted_objects_isOk_iff sorting view _

namespace Observer

/-- The query of an observer. -/
def query : Observer → Query
  | results query _ => query
  | updates query => query

/-- The records that an observer makes objects of when it sees a commit. -/
def watched (changes : ChangeSet) (view : Context) : Observer → List Record
  | results query _ => view.matching query.entityName query.filter
  | updates query => touched query changes view

/-- An observer copes with a commit: the records that it makes objects of can be sorted, and each of them
maps. -/
def Copes (sorting : Sorting) (changes : ChangeSet) (view : Context) (observer : Observer) : Prop :=
  observer.query.Manages sorting view (observer.watched changes view)

/-- An observer sees a commit through exactly where it copes with it. -/
theorem observe_isOk_iff (sorting : Sorting) (changes : ChangeSet) (view : Context)
    (observer : Observer)
    : (∃ seen, observer.observe sorting changes view = .ok seen)
      ↔ observer.Copes sorting changes view := by
  cases observer with
  | results query last =>
      rw [Copes, watched, Observer.query, ← query.answer_isOk_iff, observe]
      cases query.answer sorting view with
      | error abort => simp [bind, Except.bind]
      | ok current =>
          simp only [bind, Except.bind]
          cases Object.allEqual current last <;> simp [pure, Except.pure]
  | updates query =>
      rw [Copes, watched, Observer.query, observe]
      cases touched query changes view with
      | nil =>
          have preorder : PreorderOn (compareBy view.record? query.sort) [] := .nil
          have sorts := sortRecords_of_preorder sorting preorder
          simp [Query.Manages, sorts, pure, Except.pure]
      | cons record rest =>
          rw [← query.sorted_objects_isOk_iff]
          dsimp only
          cases sortRecords sorting view.record? query.sort (record :: rest) with
          | error abort => simp [bind, Except.bind]
          | ok sorted =>
              simp only [bind, Except.bind]
              cases query.objects view sorted <;> simp [pure, Except.pure]

end Observer

namespace Subscription

/-- An observer of results makes objects of the records that it starts with. -/
def Starts (sorting : Sorting) (view : Context) : Subscription → Prop
  | results query _ => query.Manages sorting view (view.matching query.entityName query.filter)
  | updates _ => True

theorem start_isOk_iff (sorting : Sorting) (view : Context) (subscription : Subscription)
    : (∃ started, subscription.start sorting view = .ok started)
      ↔ subscription.Starts sorting view := by
  cases subscription with
  | results query deliverCurrent =>
      rw [Starts, ← query.answer_isOk_iff, start]
      cases query.answer sorting view <;> simp [bind, Except.bind, pure, Except.pure]
  | updates query => simp [Starts, start, pure, Except.pure]

end Subscription

namespace Store

variable {α : Type} {store : Store}

-----------------------------------------------------------------------------------------
-- Commits
-----------------------------------------------------------------------------------------

/-- What observers see of a commit. -/
def landing (store : Store) (after : Context) : Context :=
  .ofArena after.view store.schema after.nextId

/-- Every observer copes with the commit of what a job has left. Observers do not look at a commit that
changes nothing. -/
def Survives (store : Store) (after : Context) : Prop :=
  after.changes.isEmpty = true
  ∨ ∀ entry ∈ store.observers, entry.2.Copes store.sorting after.changes (store.landing after)

/-- Telling the observers succeeds where each of them copes.
Witness: induction on the observers; the first one that gives up ends it.
-/
theorem notify_isSome_iff (sorting : Sorting) (changes : ChangeSet) (view : Context)
    (observers : List (Nat × Observer))
    : (notify sorting changes view observers).2.isSome = true
      ↔ ∀ entry ∈ observers, entry.2.Copes sorting changes view := by
  induction observers with
  | nil => simp [notify]
  | cons head rest ih =>
      obtain ⟨id, observer⟩ := head
      rw [List.forall_mem_cons, ← ih, ← observer.observe_isOk_iff, notify]
      cases observer.observe sorting changes view with
      | error abort => simp
      | ok seen => simp

-----------------------------------------------------------------------------------------
-- One job
-----------------------------------------------------------------------------------------

/-- What a job has left is in the records of the store and on its medium. -/
structure Committed (store : Store) (after : Context) (later : Store) : Prop where
  records : later.records = if after.changes.isEmpty then store.records else after.view
  medium
    : later.medium
      = if after.changes.isEmpty then store.medium
        else store.medium.save { nextId := after.nextId, records := after.view }
  nextId : later.nextId = after.nextId

/-- A commit that changes nothing leaves the store as it is. -/
theorem commit_of_unchanged {after : Context} (unchanged : after.changes.isEmpty = true)
    : store.commit after = ([], store) := by
  unfold commit
  exact if_pos unchanged

/-- Where the observers cope with a commit they stay, and else the worker goes. -/
theorem commit_of_changed (store : Store) {after : Context} (changed : ¬ after.changes.isEmpty = true)
    : (store.commit after).2
      = match (notify store.sorting after.changes
            (.ofArena after.view store.schema store.nextId) store.observers).2 with
        | some observers => { store with
            records := after.view
            medium := store.medium.save { nextId := store.nextId, records := after.view }
            observers }
        | none => { store with
            records := after.view
            medium := store.medium.save { nextId := store.nextId, records := after.view }
            observers := []
            running := false } := by
  unfold commit
  rw [if_neg changed]
  dsimp only [view, close]
  cases notify store.sorting after.changes (.ofArena after.view store.schema store.nextId)
    store.observers with
  | mk deliveries left => cases left <;> rfl

/-- A job that answers is committed in any case; it succeeds, and the worker goes on, exactly where it
is survived, and else the worker is gone. -/
theorem run_of_answers {job : Job α} {answer : α} {after : Context} (running : store.running = true)
    (answers : job store.view = .ok (answer, after))
    : store.Committed after (store.run job).2.2
      ∧ ((store.Survives after
          ∧ (store.run job).1 = .ok answer
          ∧ (store.run job).2.2.running = true)
        ∨ (¬ store.Survives after
          ∧ (store.run job).1 = .error .closed
          ∧ (store.run job).2.2.running = false)) := by
  let moved : Store := { store with nextId := after.nextId }
  have run : store.run job
      = (if (moved.commit after).2.running then .ok answer else .error .closed, moved.commit after) := by
    unfold Store.run
    rw [if_pos running, answers]
  rw [run]
  by_cases unchanged : after.changes.isEmpty = true
  · rw [commit_of_unchanged unchanged]
    refine ⟨⟨by rw [if_pos unchanged], by rw [if_pos unchanged], rfl⟩, Or.inl ⟨Or.inl unchanged, ?_⟩⟩
    exact ⟨if_pos running, running⟩
  · have copes := notify_isSome_iff store.sorting after.changes (store.landing after) store.observers
    have committed := commit_of_changed moved unchanged
    change _ = match (notify store.sorting after.changes (store.landing after)
        store.observers).2 with
      | some observers => _
      | none => _ at committed
    dsimp only
    rw [committed]
    cases left : (notify store.sorting after.changes (store.landing after) store.observers).2 with
    | some observers =>
        rw [left] at copes
        refine ⟨⟨by rw [if_neg unchanged], by rw [if_neg unchanged], rfl⟩, Or.inl ⟨?_, ?_⟩⟩
        · exact Or.inr (copes.mp rfl)
        · exact ⟨if_pos running, running⟩
    | none =>
        rw [left] at copes
        refine ⟨⟨by rw [if_neg unchanged], by rw [if_neg unchanged], rfl⟩, Or.inr ⟨?_, rfl, rfl⟩⟩
        intro survives
        exact Bool.noConfusion (copes.mpr (survives.resolve_left unchanged))

/-- A job that gives up is undone, and the worker goes on. -/
theorem run_of_panic {job : Job α} {message : Option String} (running : store.running = true)
    (stops : job store.view = .error (.panic message))
    : store.run job = (.error (.panicked (message.getD "unknown panic")), [], store) := by
  unfold Store.run
  rw [if_pos running, stops]

/-- Without its worker a store answers no job, registers nobody and stays as it is. -/
theorem run_of_closed (closed : store.running = false) (job : Job α)
    : store.run job = (.error .closed, [], store) := by
  unfold Store.run
  rw [if_neg (by simp [closed])]

-----------------------------------------------------------------------------------------
-- Guarded jobs
-----------------------------------------------------------------------------------------

/-- An error of the job says that nothing has happened, an answer of the job reaches whoever has asked
for it, and the worker goes on. -/
structure Guarded (store : Store) (job : Job α) : Prop where
  undone
    : ∀ error,
        (store.run job).1 = .error error
        → (store.run job).2.2.records = store.records ∧ (store.run job).2.2.medium = store.medium
  answered
    : ∀ answer after,
        job store.view = .ok (answer, after) → (store.run job).1 = .ok answer
  serving : (store.run job).2.2.running = true

/-- The job was committed, but whoever has asked for it learns of a closed worker, and so does everybody
after that. -/
structure Cut (store : Store) (job : Job α) (after : Context) : Prop where
  holds : store.Committed after (store.run job).2.2
  closed : (store.run job).1 = .error .closed
  unserved
    : ∀ {β : Type} (other : Job β),
        (store.run job).2.2.run other = (.error .closed, [], (store.run job).2.2)

theorem guarded_iff (running : store.running = true) {job : Job α}
    (ends : job store.view ≠ .error .endless)
    : store.Guarded job
      ↔ ∀ answer after, job store.view = .ok (answer, after) → store.Survives after := by
  constructor
  · intro guarded answer after answers
    rcases (run_of_answers running answers).2 with ⟨survives, _, _⟩ | ⟨_, _, gone⟩
    · exact survives
    · rw [guarded.serving] at gone
      contradiction
  · intro survives
    cases outcome : job store.view with
    | ok result =>
        obtain ⟨answer, after⟩ := result
        obtain ⟨_, answered, serving⟩ := (run_of_answers running outcome).2.resolve_right
          (fun cut => cut.1 (survives answer after outcome))
        refine ⟨fun error fails => ?_, fun answer' after' answers => ?_, serving⟩
        · rw [answered] at fails
          contradiction
        · rw [outcome] at answers
          obtain ⟨rfl, rfl⟩ := Prod.mk.inj (Except.ok.inj answers)
          exact answered
    | error abort =>
        cases abort with
        | panic message =>
            have run := run_of_panic running outcome
            refine ⟨fun _ _ => by rw [run]; exact ⟨rfl, rfl⟩, fun _ _ answers => ?_,
              by rw [run]; exact running⟩
            rw [outcome] at answers
            contradiction
        | endless => exact absurd outcome ends

theorem cut_of_not_survives (running : store.running = true) {job : Job α} {answer : α}
    {after : Context} (answers : job store.view = .ok (answer, after))
    (lost : ¬ store.Survives after)
    : store.Cut job after := by
  obtain ⟨holds, ⟨survives, _⟩ | ⟨_, closed, gone⟩⟩ := run_of_answers running answers
  · exact absurd survives lost
  · exact ⟨holds, closed, run_of_closed gone⟩

-----------------------------------------------------------------------------------------
-- Requests
-----------------------------------------------------------------------------------------

/-- What is asked of a worker. -/
inductive Request : Type 1 where
  | job {α : Type} (job : Job α)
  | register (subscription : Subscription)
  | cancel (id : Nat)

/-- The store after a request. -/
def serve (store : Store) : Request → Store
  | .job job => (store.run job).2.2
  | .register subscription => (store.subscribe subscription).2.2
  | .cancel id => store.unsubscribe id

/-- The store after several requests. -/
def serveAll (store : Store) (requests : List Request) : Store :=
  requests.foldl serve store

/-- The worker is not lost with the request: a job comes to an end and is survived by the observers, and
an observer that is registered starts. -/
def Withstands (store : Store) : Request → Prop
  | .job job =>
      job store.view ≠ .error .endless
      ∧ ∀ answer after, job store.view = .ok (answer, after) → store.Survives after
  | .register subscription => subscription.Starts store.sorting store.view
  | .cancel _ => True

/-- The worker is not lost with any of the requests. -/
def WithstandsAll (store : Store) : List Request → Prop
  | [] => True
  | request :: requests => store.Withstands request ∧ (store.serve request).WithstandsAll requests

/-- Without its worker a store serves no request. -/
theorem serve_of_closed (closed : store.running = false) (request : Request)
    : (store.serve request).running = false := by
  cases request with
  | job job => rw [serve, run_of_closed closed]; exact closed
  | register subscription =>
      unfold serve subscribe
      dsimp only
      rw [if_neg (by simp [closed])]
      exact closed
  | cancel id => exact closed

/-- A worker goes on after a registration exactly where the observer starts. -/
theorem subscribe_running_iff (running : store.running = true) (subscription : Subscription)
    : (store.subscribe subscription).2.2.running = true
      ↔ subscription.Starts store.sorting store.view := by
  rw [← subscription.start_isOk_iff]
  unfold subscribe
  dsimp only
  rw [if_pos running]
  split
  · next started => exact iff_of_true running ⟨_, started⟩
  · next failed =>
      refine iff_of_false Bool.false_ne_true (fun ⟨_, starts⟩ => ?_)
      cases failed.symm.trans starts

/-- A worker goes on after a request exactly where it withstands it. -/
theorem serve_running_iff (running : store.running = true) (request : Request)
    : (store.serve request).running = true ↔ store.Withstands request := by
  cases request with
  | job job =>
      by_cases ends : job store.view = .error .endless
      · have gone : store.run job = (.error .closed, [], store.close) := by
          unfold Store.run
          rw [if_pos running, ends]
        rw [serve, gone]
        exact iff_of_false Bool.false_ne_true (fun withstands => withstands.1 ends)
      · rw [Withstands, ← guarded_iff running ends, and_iff_right ends]
        refine ⟨fun serving => ?_, fun guarded => guarded.serving⟩
        refine (guarded_iff running ends).mpr (fun answer after answers => ?_)
        rcases (run_of_answers running answers).2 with ⟨survives, _⟩ | ⟨_, _, gone⟩
        · exact survives
        · rw [serve, gone] at serving
          contradiction
  | register subscription => exact subscribe_running_iff running subscription
  | cancel id => exact iff_of_true running trivial

/-- A worker goes on after several requests exactly where it withstands each of them in its turn.
Witness: induction on the requests; once the worker is gone it does not come back.
-/
theorem serveAll_running_iff (running : store.running = true) (requests : List Request)
    : (store.serveAll requests).running = true ↔ store.WithstandsAll requests := by
  induction requests generalizing store with
  | nil => exact iff_of_true running trivial
  | cons request requests ih =>
      have step := serve_running_iff running request
      cases serving : (store.serve request).running with
      | true => exact (ih serving).trans (and_iff_right (step.mp serving)).symm
      | false =>
          have gone : (store.serveAll (request :: requests)).running = false := by
            unfold serveAll
            exact List.foldlRecOn (motive := fun store => store.running = false) requests serve serving
              (fun store closed request _ => serve_of_closed closed request)
          rw [gone]
          refine iff_of_false Bool.false_ne_true (fun withstands => ?_)
          rw [step.mpr withstands.1] at serving
          contradiction

-----------------------------------------------------------------------------------------
-- Survival
-----------------------------------------------------------------------------------------

/-- What becomes of whoever asks a worker, and of the worker. -/
structure Survival (store : Store) : Prop where
  /-- A job that gives up has done nothing. -/
  undone
    : ∀ {α : Type} (job : Job α) (message : Option String),
        job store.view = .error (.panic message)
        → store.run job = (.error (.panicked (message.getD "unknown panic")), [], store)
  guarded
    : ∀ {α : Type} (job : Job α),
        job store.view ≠ .error .endless
        → (store.Guarded job
          ↔ ∀ answer after, job store.view = .ok (answer, after) → store.Survives after)
  cut
    : ∀ {α : Type} (job : Job α) (answer : α) (after : Context),
        job store.view = .ok (answer, after) → ¬ store.Survives after → store.Cut job after
  serving
    : ∀ requests : List Request,
        (store.serveAll requests).running = true ↔ store.WithstandsAll requests

end Store

/-- On every store with a worker, whoever is registered, a job that comes to an end is guarded exactly
where all that is watched can be sorted and maps after its commit; else it is cut off. The worker is
there after any requests, registrations among them, exactly where it withstands each of them in its turn.
Witness: a job is undone, or it is committed before the observers are told of it.
-/
theorem worker_survival {store : Store} (running : store.running = true) : store.Survival where
  undone _ _ stops := Store.run_of_panic running stops
  guarded _ ends := Store.guarded_iff running ends
  cut _ _ _ answers lost := Store.cut_of_not_survives running answers lost
  serving := Store.serveAll_running_iff running

/-- A library on a file, where somebody watches all books. -/
private def watchedLibrary : Store :=
  let store := { Store.opened Library.model.schema with medium := .file none }
  (store.subscribe (.results (.ofTerms Library.model Library.book.name [] []) false)).2.2

/-- A book is inserted in some format. -/
private def stocking (format : String) : Job Unit :=
  Job.perform
    [.insert Library.book.name, .setValue ⟨1⟩ "tags" (some (.list [])),
      .setValue ⟨1⟩ "format" (some (.string format))]

/-- All of this holds of the watched library, which survives a paperback and delivers it. -/
theorem watchedLibrary_survival
    : watchedLibrary.Survival
      ∧ (watchedLibrary.run (stocking "paperback")).1.isOk = true
      ∧ (watchedLibrary.run (stocking "paperback")).2.1.length = 1 := by
  have running : watchedLibrary.running = true := by decide +kernel
  exact ⟨worker_survival running, by decide +kernel, by decide +kernel⟩

/-- A job that puts the text of a book's last format into the watched library answers. Although it is
committed and kept, whoever has asked for it learns of a closed worker, and so does the next one.
-/
theorem bomb_cuts
    : let later := (watchedLibrary.run (stocking "bomb")).2.2
      (stocking "bomb" watchedLibrary.view).isOk = true
      ∧ (watchedLibrary.run (stocking "bomb")).1 = .error .closed
      ∧ later.records ≠ watchedLibrary.records
      ∧ later.medium ≠ watchedLibrary.medium
      ∧ (later.run (Job.perform [])).1 = .error .closed := by
  decide +kernel

end EntityStore
