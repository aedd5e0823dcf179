import EntityStore.Proofs.Service.Keeper
import EntityStore.Proofs.Store.Run

/-! What is written to a record is what its record maps to.
Writing an object over a live record of a store either gives up or leaves a record that maps to the
object, up to what is not stored and the order of members. Records outside the tree of the written one
stay as they are.
-/

namespace EntityStore

variable {store : Store}

/-- After any calls on a store that started without records, an object of a service is written over any
live record of its type and mapped back, unless the write gives up: the object comes back with its
fields that are not stored reset, its left-out lists empty and the members of every list in some order.
Every live record that the written one did not reach is unchanged.
-/
theorem write_maps_back (empty : store.records = .empty) (calls : List Call) (service : Service)
    {type : EntityType} (known : type ∈ service.model.entities) {object : Object}
    (fits : object.fits service.model type = true) {id : ObjectId} {record : Record}
    (found : (store.after calls).view.record? id = some record)
    (typed : record.entity = type.name)
    : match Object.write service.model type.name object id (store.after calls).view with
      | .ok (_, after) =>
          (∃ record' read,
            after.record? id = some record'
            ∧ after.map service.model type.name record' = pure read
            ∧ Object.ReadsBack service.model type.name object read)
          ∧ ∀ other live,
              (store.after calls).view.record? other = some live
              → ¬ Reaches (store.after calls).view.record? id other
              → after.record? other = some live
      | .error abort => ∃ message, abort = .panic message := by
  have sound := Sound.after empty calls
  have lawful := service.lawful
  have writable : Writable Service.types type.name id (store.after calls).view := by
    refine sound.writable (sound.forest.bounded found) (fun {record'} found' => ?_)
    rw [found, Option.some.injEq] at found'
    exact found' ▸ typed
  have ensures := write_ensures lawful object type.name id _ (lawful.knows known)
    (by rwa [lawful.named type known]) writable
  split
  · next answer after answers =>
      have written := ensures.elim answers
      obtain ⟨read, back, stored⟩ := written.result found
      obtain ⟨record', found', _⟩ := stored.live
      refine ⟨⟨record', read, found', Context.map_of_stored written.forest found' stored, back⟩, ?_⟩
      intro other live present apart
      exact (written.confined.frame (sound.forest.bounded present) apart).trans present
  · next abort stops => exact ensures.panic stops

/-- A keeper is written once more over its record, with a new apprentice before the old one. -/
theorem keeper_maps_back
    : let calls : List Call := [.addOrUpdate Zoo.couple]
      let view := ((Store.opened Zoo.model.schema).after calls).view
      let object := Zoo.keeperOf "k1" [Zoo.keeperOf "k3" [], Zoo.keeperOf "k2" []]
      object.fits Zoo.model Zoo.keeper = true
      ∧ ∃ record,
          view.record? ⟨1⟩ = some record
          ∧ record.entity = Zoo.keeper.name
          ∧ match Object.write Zoo.model Zoo.keeper.name object ⟨1⟩ view with
            | .ok (_, after) =>
                (∃ record' read,
                  after.record? ⟨1⟩ = some record'
                  ∧ after.map Zoo.model Zoo.keeper.name record' = pure read
                  ∧ Object.ReadsBack Zoo.model Zoo.keeper.name object read)
                ∧ ∀ other live,
                    view.record? other = some live
                    → ¬ Reaches view.record? ⟨1⟩ other
                    → after.record? other = some live
            | .error abort => ∃ message, abort = .panic message := by
  intro calls view object
  have fits : object.fits Zoo.model Zoo.keeper = true := by decide +kernel
  have live : (view.record? ⟨1⟩).map (·.entity) = some Zoo.keeper.name := by decide +kernel
  obtain ⟨record, found, typed⟩ := Option.map_eq_some_iff.mp live
  have empty : (Store.opened Zoo.model.schema).records = .empty := rfl
  have known : Zoo.keeper ∈ Service.zoo.model.entities := by decide
  have back := write_maps_back empty calls .zoo known fits found typed
  exact ⟨fits, record, found, typed, back⟩

end EntityStore
