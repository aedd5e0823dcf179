import EntityStore.Proofs.Service.Keeper
import EntityStore.Proofs.Store.Run
import EntityStore.Proofs.Write.Members

/-! What becomes of the members of a store's relations.
Whatever a store has been called with, a relation of a live record can be brought to hold any objects of
its type: the lost members go with all that cascades from them, or stay and are held by nothing.
-/

namespace EntityStore

variable {store : Store}

/-- After any calls on a store that started without records, any relation of a live record that is brought
to hold any objects, or one or none, has a member for each of them, and none twice. The members that it did
not have are inserted. Those that it has lost are deleted with all that cascades from them, or else stay as
they are, held by nothing. Records that the owner did not reach stay as they are. Only giving up keeps it
from that.
Witness: the trees of the lost members have nothing in common with what was settled.
-/
theorem members_reconciled (empty : store.records = .empty) (calls : List Call) (service : Service)
    {type : EntityType} (known : type ∈ service.model.entities) {field : Field}
    (inside : field ∈ type.fields) {target : String} (kind : field.kind = .reference target)
    {owner : ObjectId} {record : Record} (found : (store.after calls).view.record? owner = some record)
    (typed : record.entity = type.name) (deleteOld : Bool)
    : let view := (store.after calls).view
      (∀ objects : List Object,
        Object.allFit service.model (service.model.entity target) objects = true
        → (Object.storeMany service.model target owner field.key objects deleteOld).Ensures view
            (fun _ after => Reconciled target owner field.key objects deleteOld view after))
      ∧ ∀ object? : Option Object,
          Object.allFit service.model (service.model.entity target) object?.toList = true
          → (Object.storeOne service.model target owner field.key object? deleteOld).Ensures view
              (fun _ after => Reconciled target owner field.key object?.toList deleteOld view after) := by
  intro view
  have sound := Sound.after empty calls
  have lawful := service.lawful
  have start : Writable Service.types type.name owner view := sound.writable_live found typed
  have inside : field ∈ (service.model.entity type.name).fields := by
    rwa [lawful.named type known]
  have reconciles (unordered : Bool) {objects : List Object}
      (fits : Object.allFit service.model (service.model.entity target) objects = true) :=
    reconcile_reconciles lawful (lawful.knows known) start inside kind found fits unordered deleteOld
  exact ⟨fun _ fits => reconciles true fits, fun _ fits => reconciles false fits⟩

/-- A keeper takes two apprentices who are alike in place of one, who goes with an apprentice of his own. -/
theorem apprentices_reconciled
    : let calls : List Call :=
        [.addOrUpdate (Zoo.keepers [Zoo.keeperOf "k1" [Zoo.keeperOf "k2" [Zoo.keeperOf "k3" []]]]
          (by decide +kernel))]
      let view := ((Store.opened Zoo.model.schema).after calls).view
      let objects := [Zoo.keeperOf "k4" [], Zoo.keeperOf "k4" []]
      view.live.map (·.id) = [⟨1⟩, ⟨2⟩, ⟨3⟩]
      ∧ ∃ after,
          Object.storeMany Zoo.model Zoo.keeper.name ⟨1⟩ "apprentices" objects true view = .ok ((), after)
          ∧ after.live.map (·.id) = [⟨1⟩, ⟨4⟩, ⟨5⟩]
          ∧ Reconciled Zoo.keeper.name ⟨1⟩ "apprentices" objects true view after := by
  intro calls view objects
  let apprentices : Field := .new "apprentices" .many (.reference Zoo.keeper.name)
  have known : Zoo.keeper ∈ Service.zoo.model.entities := by decide
  have inside : apprentices ∈ Zoo.keeper.fields := by decide
  have live : (view.record? ⟨1⟩).map (·.entity) = some Zoo.keeper.name := by decide +kernel
  obtain ⟨record, found, typed⟩ := Option.map_eq_some_iff.mp live
  have ensures := (members_reconciled rfl calls .zoo known inside rfl found typed true).1 objects
    (by decide +kernel)
  have left
      : (Object.storeMany Zoo.model Zoo.keeper.name ⟨1⟩ "apprentices" objects true view).toOption.map
          (fun result => result.2.live.map (·.id)) = some [⟨1⟩, ⟨4⟩, ⟨5⟩] := by
    decide +kernel
  refine ⟨by decide +kernel, ?_⟩
  cases answers : Object.storeMany Zoo.model Zoo.keeper.name ⟨1⟩ "apprentices" objects true view with
  | error abort =>
      rw [answers] at left
      cases left
  | ok result =>
      rw [answers] at left
      exact ⟨result.2, rfl, Option.some.inj left, ensures.elim answers⟩

end EntityStore
