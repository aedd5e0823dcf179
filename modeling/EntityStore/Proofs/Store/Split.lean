import EntityStore.Proofs.Batch.Append
import EntityStore.Proofs.Service.Reference
import EntityStore.Proofs.Store.Repeat

/-! A batch in two calls.
Upserting a batch leaves the records and the next identifier that upserting its halves one after the other
leaves, although the second half then looks its identifiers up among committed records.
-/

namespace EntityStore

variable {store : Store}

/-- A batch of other objects of the same type. -/
def Batch.sibling (batch : Batch) (objects : List Object)
    (typed : ∀ object ∈ objects, object.fits batch.service.model batch.type = true)
    : Batch :=
  { batch with objects, typed }

/-- A batch with more objects at its end. -/
def Batch.append (batch : Batch) (more : List Object)
    (typed : ∀ object ∈ more, object.fits batch.service.model batch.type = true)
    : Batch :=
  batch.sibling (batch.objects ++ more) (List.forall_mem_append.mpr ⟨batch.typed, typed⟩)

@[simp] theorem Batch.append_objects (batch : Batch) (more : List Object)
    (typed : ∀ object ∈ more, object.fits batch.service.model batch.type = true)
    : (batch.append more typed).objects = batch.objects ++ more := rfl

namespace Store

/-- What a caller who upserts a batch is told. No batch is no job, which always goes well. -/
def reply (store : Store) (batch : Batch) : Except StoreError Unit :=
  if batch.objects.isEmpty then .ok () else (store.run batch.job).1

/-- Stores that look alike have the same records and the same next identifier. -/
theorem eq_of_sight {a b : Store} (alike : a.view.sight = b.view.sight)
    : a.records = b.records ∧ a.nextId = b.nextId := by
  obtain ⟨records, _, next⟩ := Context.sight_eq_iff.mp alike
  exact ⟨Table.ext_get? records, next⟩

end Store

namespace Batch

variable {batch : Batch} {after : Context}

/-- A batch without objects leaves everything as it was. -/
theorem job_of_empty (empty : batch.objects = []) (context : Context)
    : batch.job context = .ok ((), context) := by
  rw [job, empty]
  rfl

/-- The store looks as the job of the batch has left its context. -/
theorem call_sight (sound : Sound Service.types store.view)
    (running : batch.objects ≠ [] → store.running = true)
    (answers : batch.job store.view = .ok ((), after))
    : (store.call (.addOrUpdate batch)).view.sight = after.sight := by
  rw [Store.call_batch]
  split
  · next none =>
      rw [job_of_empty (List.isEmpty_iff.mp none)] at answers
      cases answers
      rfl
  · next some =>
      have confined := ((batch.ensures sound).elim answers).confined
      obtain ⟨records, next, schema⟩ := Store.run_of_answer (running (by simpa using some)) answers
        confined.committed
      exact Context.sight_eq_iff.mpr ⟨records, schema.trans confined.schema.symm, next⟩

/-- A batch that went well had a worker and was answered. -/
theorem answers_of_reply (reply : store.reply batch = .ok ())
    : (batch.objects ≠ [] → store.running = true)
      ∧ ∃ after, batch.job store.view = .ok ((), after) := by
  unfold Store.reply at reply
  split at reply
  · next none =>
      have empty := List.isEmpty_iff.mp none
      exact ⟨fun some => absurd empty some, _, job_of_empty empty _⟩
  · obtain ⟨running, _, after, answers⟩ := Store.answer_of_success (by rw [reply]; rfl)
    exact ⟨fun _ => running, after, answers⟩

/-- Where nobody is watching, a batch goes well if its job answers. -/
theorem reply_iff (quiet : store.Quiet)
    : store.reply batch = .ok () ↔ ∃ after, batch.job store.view = .ok ((), after) := by
  refine ⟨fun reply => (answers_of_reply reply).2, ?_⟩
  rintro ⟨after, answers⟩
  unfold Store.reply
  split
  · rfl
  · have success := quiet.success answers
    cases told : (store.run batch.job).1 with
    | ok _ => rfl
    | error _ =>
        rw [told] at success
        contradiction

/-- A batch leaves a quiet store quiet. -/
theorem call_quiet (sound : Sound Service.types store.view) (quiet : store.Quiet) (batch : Batch)
    : (store.call (.addOrUpdate batch)).Quiet := by
  rw [Store.call_batch]
  split
  · exact quiet
  · exact quiet.run (batch.ensures sound)

section Append

variable {more : List Object}
  {typed : ∀ object ∈ more, object.fits batch.service.model batch.type = true}
  (sound : Sound Service.types store.view) (other : batch.type ≠ Zoo.keeper)
include sound other

/-- The job of a batch is the job of its first half followed by that of its second half. -/
theorem job_append
    : (batch.append more typed).job store.view
      = (do
          batch.job
          (batch.sibling more typed).job : Job Unit) store.view :=
  upsert_append batch.service.lawful batch.known batch.identifiable
    (fun way => other (batch.service.keeper_of_reaches_self batch.known way).2) batch.typed sound

/-- Where both halves are answered the whole batch is, and the store looks alike afterwards.
Witness: the second half runs where the first one has ended, whether that was committed or not.
-/
theorem call_append {middle : Context} (running : batch.objects ≠ [] → store.running = true)
    (first : batch.job store.view = .ok ((), middle))
    (running' : more ≠ [] → (store.call (.addOrUpdate batch)).running = true)
    (second
      : (batch.sibling more typed).job (store.call (.addOrUpdate batch)).view = .ok ((), after))
    : (∃ whole, (batch.append more typed).job store.view = .ok ((), whole))
      ∧ (store.call (.addOrUpdate (batch.append more typed))).view.sight
        = ((store.call (.addOrUpdate batch)).call (.addOrUpdate (batch.sibling more typed))).view.sight
      := by
  have halfway := call_sight sound running first
  obtain ⟨whole, second', alike⟩ := (upsert_oblivious more).answer halfway second
  have answers : (batch.append more typed).job store.view = .ok ((), whole) := by
    rw [job_append sound other, Job.bind_of_ok first]
    exact second'
  refine ⟨⟨whole, answers⟩, ?_⟩
  rw [call_sight sound ?_ answers, call_sight (sound.call _) running' second, alike]
  intro some
  by_cases none : batch.objects = []
  · have rest : more ≠ [] := by
      rintro rfl
      exact some (by rw [append_objects, none, List.nil_append])
    have same : store.call (.addOrUpdate batch) = store := by
      rw [Store.call_batch, none]
      rfl
    exact same ▸ running' rest
  · exact running none

end Append

end Batch

/-- On a store that has seen any calls since it had no records, a batch may be split anywhere: if both
halves go well one after the other, they leave the records and the next identifier that the whole batch
leaves. Where nobody is watching the whole batch goes well exactly if both halves do. Keepers are the one
type that is excepted, because keepers are nested in keepers.
Witness: a second look-up finds what the whole batch remembers, and no job tells what was committed from
what is pending.
-/
theorem addOrUpdate_append (empty : store.records = .empty) (calls : List Call) (batch : Batch)
    (more : List Object)
    (typed : ∀ object ∈ more, object.fits batch.service.model batch.type = true)
    (other : batch.type ≠ Zoo.keeper)
    : let before := store.after calls
      let second := batch.sibling more typed
      let whole := batch.append more typed
      let halfway := before.call (.addOrUpdate batch)
      (before.reply batch = .ok () ∧ halfway.reply second = .ok ()
        → (before.call (.addOrUpdate whole)).records = (halfway.call (.addOrUpdate second)).records
          ∧ (before.call (.addOrUpdate whole)).nextId = (halfway.call (.addOrUpdate second)).nextId)
      ∧ (before.Quiet
        → (before.reply whole = .ok ()
          ↔ before.reply batch = .ok () ∧ halfway.reply second = .ok ())) := by
  intro before second whole halfway
  have sound : Sound Service.types before.view := .after empty calls
  constructor
  · rintro ⟨told, told'⟩
    obtain ⟨running, middle, first⟩ := Batch.answers_of_reply told
    obtain ⟨running', after, second⟩ := Batch.answers_of_reply told'
    exact Store.eq_of_sight (Batch.call_append sound other running first running' second).2
  · intro quiet
    have quiet' : halfway.Quiet := Batch.call_quiet sound quiet batch
    rw [Batch.reply_iff quiet, Batch.reply_iff quiet, Batch.reply_iff quiet']
    constructor
    · rintro ⟨after, answers⟩
      have split := (Batch.job_append sound other).symm.trans answers
      obtain ⟨⟨_, middle⟩, first, rest⟩ := Mapping.attempt_bind_eq_ok_iff.mp split
      have alike := Batch.call_sight sound (fun _ => quiet.running) first
      obtain ⟨after', second, _⟩ := (upsert_oblivious more).answer alike.symm rest
      exact ⟨⟨middle, first⟩, after', second⟩
    · rintro ⟨⟨middle, first⟩, after, second⟩
      exact (Batch.call_append sound other (fun _ => quiet.running) first
        (fun _ => quiet'.running) second).1

/-- An author loses a book in the second half of a batch, where another author gets a book of the same
identifier. The author is looked up again for the second half, and the book is a new record either way.
-/
theorem author_append
    : let store := Store.opened Library.model.schema
      let calls : List Call := [.addOrUpdate (Library.authorOf "a" ["x"] (by decide +kernel))]
      let batch := Library.authorOf "a" ["x", "y"] (by decide +kernel)
      let other := Library.authorOf "a" ["y"] (by decide +kernel)
      let more := other.objects ++ (Library.authorOf "d" ["x"] (by decide +kernel)).objects
      ∃ typed : ∀ object ∈ more, object.fits batch.service.model batch.type = true,
        let before := store.after calls
        let second := batch.sibling more typed
        let whole := before.call (.addOrUpdate (batch.append more typed))
        let halfway := before.call (.addOrUpdate batch)
        before.reply batch = .ok ()
        ∧ halfway.reply second = .ok ()
        ∧ halfway.records.keys = [⟨1⟩, ⟨2⟩, ⟨3⟩]
        ∧ whole.records.keys = [⟨1⟩, ⟨3⟩, ⟨4⟩, ⟨5⟩]
        ∧ whole.records = (halfway.call (.addOrUpdate second)).records
        ∧ whole.nextId = (halfway.call (.addOrUpdate second)).nextId := by
  intro store calls batch other more
  refine ⟨by decide +kernel, ?_⟩
  intro before second whole halfway
  have told : before.reply batch = .ok () := by decide +kernel
  have told' : halfway.reply second = .ok () := by decide +kernel
  have same := (addOrUpdate_append rfl calls batch more (by decide +kernel) (by decide)).1
    ⟨told, told'⟩
  exact ⟨told, told', by decide +kernel, by decide +kernel, same⟩

end EntityStore
