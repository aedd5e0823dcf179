import EntityStore.Proofs.Batch.Upsert
import EntityStore.Proofs.Context.Draft
import EntityStore.Proofs.Write.Operations

/-! Batches and deletions are jobs of operations.
Upserting a batch and deleting what matches a query do nothing to their context but insert and delete
records and set attributes and relations. What holds of all such jobs holds of them.
-/

namespace EntityStore

namespace Job.Operates

variable {α β : Type}

/-- A job that leaves its context alone operates. -/
theorem of_reads {job : Job α}
    (reads : ∀ {context answer after}, job context = .ok (answer, after) → after = context)
    : job.Operates :=
  fun _ _ _ answers => ⟨[], by rw [reads answers]; rfl⟩

theorem pure (answer : α) : (Pure.pure answer : Job α).Operates :=
  of_reads (fun answers => by cases answers; rfl)

theorem lift (attempt : Attempt α) : Job.Operates (attempt : Job α) := by
  refine of_reads (fun answers => ?_)
  cases attempt with
  | ok answer =>
      cases answers
      rfl
  | error abort => cases answers

/-- Jobs that operate do so one after the other. -/
theorem bind {job : Job α} {next : α → Job β} (first : job.Operates)
    (later : ∀ answer, (next answer).Operates)
    : (job >>= next).Operates := by
  intro context answer after answers
  obtain ⟨result, middle, ends, rest⟩ := exists_of_bind answers
  obtain ⟨operations, performed⟩ := first _ _ _ ends
  obtain ⟨operations', performed'⟩ := later _ _ _ _ rest
  refine ⟨operations ++ operations', ?_⟩
  rw [Context.performAll, List.foldlM_append]
  exact (congrArg (· >>= _) performed).trans performed'

theorem get_bind {next : Context → Job β} (later : ∀ context, (next context).Operates)
    : ((get : Job Context) >>= next).Operates :=
  bind (of_reads (fun answers => by cases answers; rfl)) later

/-- A write operates where it comes down to operations. -/
theorem write {f : Context → Context}
    (performs : ∀ context : Context, ∃ operations, context.performAll operations = .ok (f context))
    : (Job.write f).Operates := by
  intro context answer after answers
  cases answers
  exact performs context

theorem insert (entity : String) : (Job.insert entity).Operates := by
  intro context answer after answers
  have answers : context.insert entity = .ok (answer, after) := answers
  refine ⟨[.insert entity], ?_⟩
  rw [Context.performAll, List.foldlM_cons, Context.perform, answers]
  rfl

/-- Deleting records one by one operates. -/
theorem deleteAll (ids : List ObjectId)
    : (Job.write (fun context => ids.foldl Context.delete context)).Operates := by
  refine write (fun context => ⟨ids.map .delete, ?_⟩)
  induction ids generalizing context with
  | nil => rfl
  | cons id ids ih => exact ih (context.delete id)

end Job.Operates

variable {model : Model} {type : EntityType}

/-- Writing is made of operations. -/
private theorem operates_closed (model : Model)
    : Job.Closed model (fun _ => True) (fun job => job.Operates) where
  pure answer := .pure answer
  lift attempt := .lift attempt
  bind first later := first.bind later
  setValue id key value := .write (fun _ => ⟨[.setValue id key value], rfl⟩)
  setRelated id key ids := .write (fun _ => ⟨[.setRelated id key ids], rfl⟩)
  deleteAll members := by simpa only [List.foldl_map] using Job.Operates.deleteAll (members.map (·.id))
  insert _ := .insert _
  members _ _ _ _ later := .get_bind (fun _ => (Job.Operates.lift _).bind later)

/-- Writing an object operates. -/
theorem write_operates (object : Object) (entity : String) (id : ObjectId)
    : (Object.write model entity object id).Operates :=
  write_closed (operates_closed model) (fun _ _ => trivial) object id (fun _ _ => trivial)

/-- Upserting a batch operates.
Witness: induction on the objects; a record is inserted at most, and then written to.
-/
theorem upsert_operates (objects : List Object) : (Object.upsert model type objects).Operates := by
  refine .get_bind (fun context => ?_)
  dsimp only
  generalize Object.existing type _ _ context = known
  induction objects generalizing known with
  | nil => exact .pure ()
  | cons object objects ih =>
      cases found : known.get? (type.identifier object) with
      | some id =>
          rw [Object.upsertAll_of_found found]
          exact (write_operates object _ id).bind (fun _ => ih known)
      | none =>
          rw [Object.upsertAll_of_missing found]
          exact (Job.Operates.insert _).bind
            (fun id => (write_operates object _ id).bind (fun _ => ih _))

/-- Deleting what matches a query operates. -/
theorem Query.deleteMatches_operates (query : Query) : query.deleteMatches.Operates := by
  intro context answer after answers
  cases answers
  exact Job.Operates.deleteAll _ context () _ rfl

end EntityStore
