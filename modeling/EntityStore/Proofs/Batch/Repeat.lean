import EntityStore.Proofs.Batch.Upsert
import EntityStore.Proofs.Write.Repeat

/-! Batches that change nothing.
Where the objects of a batch are written over the records that their identifiers resolve to without a
trace, the batch is upserted without a trace. So it is where each identifier resolves to a record that
holds what its object comes back as.
-/

namespace EntityStore

variable {types model : Model} {context : Context} {type : EntityType} {objects : List Object}
  {known : Table String ObjectId}

/-- Objects that are written without a trace over the records that they are known under are upserted
without a trace. -/
private theorem upsertAll_unchanged
    (unchanged
      : ∀ object ∈ objects, ∃ id,
          known.get? (type.identifier object) = some id
          ∧ Object.write model type.name object id context = .ok ((), context))
    : Object.upsertAll model type objects known context = .ok ((), context) := by
  induction objects with
  | nil => rfl
  | cons object objects ih =>
      obtain ⟨id, found, written⟩ := unchanged object List.mem_cons_self
      rw [Object.upsertAll_of_found found, Job.bind_of_ok written]
      exact ih (fun other listed => unchanged other (List.mem_cons_of_mem _ listed))

section Again

variable (lawful : model.Lawful types) (inside : type ∈ model.entities)
  (forest : Forest types context) (identifiable : type.isIdentifiable = true)
include lawful inside forest identifiable

/-- A batch is upserted without a trace where each of its objects is written without a trace over the
record that its identifier resolves to.
-/
theorem upsert_unchanged
    (unchanged
      : ∀ object ∈ objects, ∃ id,
          Resolves context type (type.identifier object) id
          ∧ Object.write model type.name object id context = .ok ((), context))
    : Object.upsert model type objects context = .ok ((), context) := by
  refine (Job.bind_of_ok rfl _).trans (upsertAll_unchanged (fun object listed => ?_))
  obtain ⟨id, resolves, written⟩ := unchanged object listed
  refine ⟨id, ?_, written⟩
  exact (found_get?_iff lawful inside identifiable forest.keyed).mpr
    ⟨List.mem_map_of_mem listed, resolves⟩

/-- A batch is upserted without a trace where each of its identifiers resolves to a record that holds what
its object comes back as.
-/
theorem upsert_again (fits : ∀ object ∈ objects, object.fits model type = true)
    (distinct : ∀ object ∈ objects, object.membersDistinct model type = true)
    (recalled
      : ∀ object ∈ objects, ∃ id read,
          Resolves context type (type.identifier object) id
          ∧ Object.ReadsBack model type.name object read
          ∧ Object.Stored model context.record? type.name read id)
    : Object.upsert model type objects context = .ok ((), context) := by
  refine upsert_unchanged lawful inside forest identifiable (fun object listed => ?_)
  obtain ⟨id, read, resolves, back, stored⟩ := recalled object listed
  have named := lawful.named type inside
  exact ⟨id, resolves,
    write_again lawful object type.name id context read (lawful.knows inside)
      (by rw [named]; exact fits object listed) (by rw [named]; exact distinct object listed) forest
      back stored⟩

end Again

end EntityStore
