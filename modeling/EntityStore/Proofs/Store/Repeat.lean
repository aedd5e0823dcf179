import EntityStore.Proofs.Batch.Effect
import EntityStore.Proofs.Batch.Repeat
import EntityStore.Proofs.Service.Reference
import EntityStore.Proofs.Store.Run

/-! A batch that succeeds can be repeated without a trace.
Objects of a type that does not reach itself, with different identifiers and with members that are told
apart, are all found again by a second upsert, and nothing is written at all.
-/

namespace EntityStore

variable {store : Store}

/-- After a batch has succeeded on a store of sound records, it finds its objects again. -/
theorem Batch.recalled (batch : Batch) (sound : Sound Service.types store.view)
    (apart : ¬ Relation.TransGen batch.service.model.Refers batch.type.name batch.type.name)
    (identified : (batch.objects.map batch.type.identifier).Nodup)
    (success : (store.run batch.job).1.isOk = true)
    : ∀ object ∈ batch.objects, ∃ id read,
        Resolves (store.call (.addOrUpdate batch)).view batch.type (batch.type.identifier object) id
        ∧ Object.ReadsBack batch.service.model batch.type.name object read
        ∧ Object.Stored batch.service.model (store.call (.addOrUpdate batch)).view.record?
            batch.type.name read id := by
  intro object listed
  obtain ⟨after, upserts, same⟩ := batch.upserts_of_success sound success
  have current := found_current batch.service.lawful batch.known batch.identifiable
    sound.forest.keyed batch.objects
  obtain ⟨earlier, later, split⟩ := List.append_of_mem listed
  have last : batch.type.identifier object ∉ later.map batch.type.identifier := by
    rw [split, List.map_append, List.map_cons] at identified
    exact (List.nodup_cons.mp (List.nodup_append.mp identified).2.1).1
  obtain ⟨id, read, resolves, back, stored⟩ :=
    upserts.recalled batch.service.lawful batch.known batch.identifiable apart sound.forest
      batch.typed current split last
  have same := same (List.ne_nil_of_mem listed)
  refine ⟨id, read, ?_, back, ?_⟩
  · simpa only [Resolves, same] using resolves
  · rwa [same]

/-- On a store that has seen any calls since it had no records, a batch of objects of a type that does
not reach itself changes nothing when it is upserted a second time: the second job leaves the context as
it found it, there is nothing to commit, and neither does the store change nor is anything delivered.
Witness: each identifier resolves to a record that holds what its object has come back as.
-/
theorem addOrUpdate_twice (empty : store.records = .empty) (calls : List Call) (batch : Batch)
    (apart : ¬ Relation.TransGen batch.service.model.Refers batch.type.name batch.type.name)
    (identified : (batch.objects.map batch.type.identifier).Nodup)
    (distinct
      : ∀ object ∈ batch.objects,
          object.membersDistinct batch.service.model batch.type = true)
    (success : ((store.after calls).run batch.job).1.isOk = true)
    : let next := (store.after calls).call (.addOrUpdate batch)
      batch.job next.view = .ok ((), next.view)
      ∧ next.view.hasChanges = false
      ∧ next.addOrUpdate batch.service.model batch.type.name batch.objects = ([], next) := by
  intro next
  have sound := Sound.after empty calls
  have again : batch.job next.view = .ok ((), next.view) :=
    upsert_again batch.service.lawful batch.known (sound.call (.addOrUpdate batch)).forest
      batch.identifiable batch.typed distinct (batch.recalled sound apart identified success)
  refine ⟨again, rfl, ?_⟩
  rw [Store.addOrUpdate, batch.service.lawful.named batch.type batch.known]
  split
  · rfl
  · exact Store.run_of_unchanged again

/-- A book that nobody has read yet. -/
def Library.bookOf (id : String) : Object :=
  .mk
    [.scalar (.one (.string id)),
      .scalar (.one (.string "")),
      .scalar (.one (.integer 0)),
      .scalar (.many []),
      .scalar (.option none),
      .scalar (.option none),
      .textual (.one (.format .ebook))]

/-- A batch of one author of some books. -/
def Library.authorOf (id : String) (books : List String)
    (typed : ∀ object ∈ [Object.mk
        [.scalar (.one (.string id)), .scalar (.one (.string "")),
          .members true (books.map bookOf)]], object.fits model author = true)
    : Batch where
  service := .library
  type := author
  objects := [.mk
    [.scalar (.one (.string id)), .scalar (.one (.string "")), .members true (books.map bookOf)]]
  known := by decide
  identifiable := rfl
  typed

/-- An author whose books were stored in another order is upserted once more without a trace. -/
theorem author_twice
    : let calls : List Call :=
        [.addOrUpdate (Library.authorOf "a" ["b", "c", "d"] (by decide +kernel))]
      let batch := Library.authorOf "a" ["d", "b"] (by decide +kernel)
      let next := ((Store.opened Library.model.schema).after calls).call (.addOrUpdate batch)
      next.records.values.length = 3
      ∧ batch.job next.view = .ok ((), next.view)
      ∧ next.view.hasChanges = false
      ∧ next.addOrUpdate batch.service.model batch.type.name batch.objects = ([], next) := by
  intro calls batch next
  refine ⟨by decide +kernel, addOrUpdate_twice rfl calls batch ?_ ?_ ?_ ?_⟩
  · intro way
    exact absurd (Service.library.keeper_of_reaches_self batch.known way).1 (by decide)
  · decide +kernel
  · decide +kernel
  · decide +kernel

end EntityStore
