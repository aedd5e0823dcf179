import EntityStore.Proofs.Batch.Loss
import EntityStore.Proofs.Service.Reference
import EntityStore.Proofs.Store.Run

/-! When batches lose identifiers.
A batch looks its records up once, before it writes, and may delete one of them with a keeper that it
writes earlier; what is then written to the deleted record is lost. Exactly the lists of identifiers that
are not secure allow for that, so no type but that of the keepers is concerned.
-/

namespace EntityStore

variable {store : Store}

/-- Batches of objects of a type, with different identifiers out of a list, keep a record for each of
their identifiers whenever they succeed.
-/
def Store.Keeps (store : Store) (service : Service) (type : EntityType) (texts : List String)
    : Prop :=
  ∀ batch : Batch,
    batch.service = service
    → batch.type = type
    → (batch.objects.map type.identifier).Nodup
    → batch.objects.map type.identifier ⊆ texts
    → (store.run batch.job).1.isOk = true
    → ∀ object ∈ batch.objects, ∃ id,
        Carries (store.call (.addOrUpdate batch)).view.record? type (type.identifier object) id

/-- Batches with identifiers out of a secure list keep them. -/
theorem Store.Keeps.of_secure (sound : Sound Service.types store.view) {service : Service}
    {type : EntityType} {texts : List String} (secure : Secure store.view type texts)
    : store.Keeps service type texts := by
  intro batch same same' distinct part success object listed
  obtain rfl := same
  obtain rfl := same'
  obtain ⟨after, upserts, same⟩ := batch.upserts_of_success sound success
  rw [same (List.ne_nil_of_mem listed)]
  exact upserts.carried batch.service.lawful batch.known batch.identifiable sound.forest batch.typed
    distinct part secure object listed

/-- Where batches of keepers keep all identifiers of a list, the list is secure. -/
theorem Store.Keeps.secure (sound : Sound Service.types store.view) (quiet : store.Quiet)
    (schema : store.schema.entity? Zoo.keeper.name = some Zoo.keeper.descriptor)
    {texts : List String} (keeps : store.Keeps .zoo Zoo.keeper texts)
    : Secure store.view Zoo.keeper texts := by
  refine Classical.byContradiction (fun insecure => ?_)
  obtain ⟨lost, _, badges, part, after, distinct, named, answers, gone⟩ :=
    Zoo.exists_loss sound schema insecure
  have identifiers : (Zoo.leaves badges).objects.map Zoo.keeper.identifier = badges :=
    (List.map_map ..).trans (List.map_id badges)
  have success : (store.run (Zoo.leaves badges).job).1.isOk = true := quiet.success answers
  have inside : Zoo.keeperOf lost [] ∈ (Zoo.leaves badges).objects := List.mem_map_of_mem named
  obtain ⟨id, carries⟩ := keeps (Zoo.leaves badges) rfl rfl (by rwa [identifiers])
    (by rwa [identifiers]) success _ inside
  have upserts := ((Zoo.leaves badges).ensures sound).elim answers
  have same : (store.call (.addOrUpdate (Zoo.leaves badges))).view.record? = after.record? := by
    rw [Store.call_batch, if_neg (by simpa using List.ne_nil_of_mem inside)]
    exact funext (Store.run_of_answer quiet.running answers upserts.confined.committed).1
  rw [same] at carries
  exact gone id carries

/-- On a store that has seen any changes since it was opened without records, batches keep all identifiers
of a secure list; under the schema of the service, batches that keep all identifiers of a list are found
only where the list is secure. All lists are secure for a type that does not reach itself.
Witness: where a list is not secure, its keepers without apprentices lose one of their identifiers.
-/
theorem keeps_iff_secure (empty : store.records = .empty) (quiet : store.Quiet)
    {calls : List Call} (changes : ∀ call ∈ calls, call.isChange = true) (service : Service)
    {type : EntityType} (known : type ∈ service.model.entities)
    (texts : List String)
    : (Secure (store.after calls).view type texts → (store.after calls).Keeps service type texts)
      ∧ (store.schema = service.model.schema
        → (store.after calls).Keeps service type texts
        → Secure (store.after calls).view type texts)
      ∧ (¬ Relation.TransGen service.model.Refers type.name type.name
        → Secure (store.after calls).view type texts) := by
  have sound := Sound.after empty calls
  have apart (way : ¬ Relation.TransGen service.model.Refers type.name type.name)
      : Secure (store.after calls).view type texts :=
    .of_apart service.lawful sound.forest known way texts
  refine ⟨.of_secure sound, fun schema keeps => ?_, apart⟩
  by_cases way : Relation.TransGen service.model.Refers type.name type.name
  · obtain ⟨rfl, rfl⟩ := service.keeper_of_reaches_self known way
    refine keeps.secure sound (quiet.after (.of_empty empty) changes) ?_
    rw [Store.after_schema, schema]
    decide
  · exact apart way

/-- On a store of one keeper with an apprentice, all of this holds of the two. -/
theorem keeper_and_apprentice
    : let store := Store.opened Zoo.model.schema
      let calls : List Call := [.addOrUpdate Zoo.couple]
      (Secure (store.after calls).view Zoo.keeper ["k1", "k2"]
        → (store.after calls).Keeps .zoo Zoo.keeper ["k1", "k2"])
      ∧ (store.schema = Zoo.model.schema
        → (store.after calls).Keeps .zoo Zoo.keeper ["k1", "k2"]
        → Secure (store.after calls).view Zoo.keeper ["k1", "k2"])
      ∧ (¬ Relation.TransGen Zoo.model.Refers Zoo.keeper.name Zoo.keeper.name
        → Secure (store.after calls).view Zoo.keeper ["k1", "k2"]) := by
  intro store calls
  have empty : store.records = .empty := rfl
  have changes : ∀ call ∈ calls, call.isChange = true := by simp [calls, Call.isChange]
  have known : Zoo.keeper ∈ Service.zoo.model.entities := by decide
  exact keeps_iff_secure empty ⟨rfl, rfl⟩ changes .zoo known ["k1", "k2"]

/-- A text that no record holds in the identifying field of a type is not carried. -/
private theorem not_carried {type : EntityType} {field : Field} {text : String}
    (identified : type.idField? = some field)
    (none : ∀ record ∈ store.records.values, record.value? field.key ≠ some (.string text))
    : ¬ ∃ id, Carries store.view.record? type text id := by
  intro carried
  obtain ⟨id, record, field', found, _, identified', value⟩ := carried
  obtain rfl : field = field' := Option.some.inj (identified.symm.trans identified')
  exact none record (Table.mem_values_iff.mpr ⟨id, found⟩) value

/-- A keeper who is an apprentice and is named before the other keeper of a batch is lost, although the
batch succeeds.
-/
theorem apprentice_lost
    : let store := (Store.opened Zoo.model.schema).after [.addOrUpdate Zoo.couple]
      let batch := Zoo.leaves ["k2", "k1"]
      (batch.objects.map Zoo.keeper.identifier).Nodup
      ∧ (store.run batch.job).1.isOk = true
      ∧ ∃ object ∈ batch.objects,
          ¬ ∃ id,
            Carries (store.call (.addOrUpdate batch)).view.record? Zoo.keeper
              (Zoo.keeper.identifier object) id := by
  intro store batch
  refine ⟨by decide +kernel, by decide +kernel, Zoo.keeperOf "k2" [], List.mem_cons_self, ?_⟩
  have identified : Zoo.keeper.idField? = some (.identifier "badge") := rfl
  exact not_carried identified (by decide +kernel)

end EntityStore
