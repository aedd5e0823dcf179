import EntityStore.Proofs.Batch.Repeat
import EntityStore.Proofs.Mapping.Recovery
import EntityStore.Proofs.Object.Reflexive
import EntityStore.Proofs.Store.Results

/-! Writing back what was read.
On a store that has seen nothing but typed calls every query is answered, and each object of the answer is
stored where it was read. So a batch of such objects finds them all again and writes nothing, as long as no
two records share an identifier.
-/

namespace EntityStore

variable {store : Store} {query : Query} {view : Context}

-----------------------------------------------------------------------------------------
-- Answers
-----------------------------------------------------------------------------------------

namespace Query

/-- The records of a query are live records of its entity. -/
theorem found_of_mem_records {sorting : Sorting} {records : List Record}
    (sorts : query.records sorting view = .ok records) {record : Record} (listed : record ∈ records)
    : ∃ id, view.record? id = some record ∧ record.entity = query.entity := by
  obtain ⟨⟨id, found⟩, typed, _⟩ := (Context.mem_fetch_iff sorts).mp listed
  rw [entityName, Model.entity_name] at typed
  exact ⟨id, found, typed⟩

/-- Where the mapping of each record ends, the query has its objects, and they are what was mapped.
Witness: induction on the records; an error passes its record over.
-/
theorem objects_of_yields {post : Object → Prop} (records : List Record)
    (each
      : ∀ record ∈ records, (view.map query.model query.entity record).Yields post)
    : ∃ objects, query.objects view records = .ok objects ∧ ∀ object ∈ objects, post object := by
  induction records with
  | nil => exact ⟨[], rfl, fun _ listed => absurd listed List.not_mem_nil⟩
  | cons record records ih =>
      obtain ⟨objects, answers, holds⟩ := ih (fun other listed => each other (.tail _ listed))
      obtain ⟨result, ends, held⟩ := each record List.mem_cons_self
      have ends : view.map query.model query.entity record = .ok result := ends
      cases result with
      | error error =>
          refine ⟨objects, ?_, holds⟩
          rw [Query.objects, ends, answers]
          rfl
      | ok object =>
          refine ⟨object :: objects, ?_, List.forall_mem_cons.mpr ⟨held object rfl, holds⟩⟩
          rw [Query.objects, ends, answers]
          rfl

end Query

/-- On sound records a query of a service is answered where its records can be sorted, and each object of the
answer is stored. -/
theorem Sound.answers (sound : Sound Service.types view) {model : Model}
    (lawful : model.Lawful Service.types) (known : model.Knows query.entity)
    (asked : query.model = model) {sorting : Sorting} {records : List Record}
    (sorts : query.records sorting view = .ok records)
    : ∃ results,
        query.answer sorting view = .ok results
        ∧ ∀ object ∈ results, ∃ id, Object.Stored model view.record? query.entity object id := by
  subst asked
  have yields : ∃ results,
      query.objects view records = .ok results
      ∧ ∀ object ∈ results, ∃ id,
          Object.Stored query.model view.record? query.entity object id := by
    refine Query.objects_of_yields _ (fun record listed => ?_)
    obtain ⟨id, found, typed⟩ := Query.found_of_mem_records sorts listed
    have start := sound.writable_live found typed
    exact (start.map_yields lawful known (sound.complete id) found).mono
      (fun object stored => ⟨id, stored⟩)
  obtain ⟨results, answers, stored⟩ := yields
  exact ⟨results, Mapping.attempt_bind_eq_ok_iff.mpr ⟨records, sorts, answers⟩, stored⟩

-----------------------------------------------------------------------------------------
-- Batches of answers
-----------------------------------------------------------------------------------------

/-- After any calls on a store without records, every query for an identifiable entity type has an answer if
its records can be sorted. Where no two records of the type carry one identifier, any list of objects of the
answer, in any order and with any repetitions, is upserted without a trace: the job leaves the context as it
found it, so there is nothing to commit and no identifier is taken, and neither does the store change nor is
anything delivered.
Witness: each object is stored in the only record that carries its identifier.
-/
theorem addOrUpdate_read (empty : store.records = .empty) (calls : List Call) (service : Service)
    {type : EntityType} (known : type ∈ service.model.entities)
    (identifiable : type.isIdentifiable = true)
    (unique
      : ∀ text a b,
          Carries (store.after calls).view.record? type text a
          → Carries (store.after calls).view.record? type text b
          → a = b)
    {query : Query} (asked : query.model = service.model) (named : query.entity = type.name)
    : let next := store.after calls
      ((∃ records, query.records next.sorting next.view = .ok records)
        ↔ ∃ results, query.answer next.sorting next.view = .ok results)
      ∧ ∀ results,
          query.answer next.sorting next.view = .ok results
          → (next.running = true → (next.execute query).1 = .ok results)
            ∧ ∀ objects ⊆ results,
                Object.upsert service.model type objects next.view = .ok ((), next.view)
                ∧ next.addOrUpdate service.model type.name objects = ([], next) := by
  intro next
  have sound : Sound Service.types next.view := .after empty calls
  have lawful := service.lawful
  have same := lawful.named type known
  have knows := lawful.knows known
  refine ⟨⟨fun ⟨records, sorts⟩ => ?_, fun ⟨results, answers⟩ => ?_⟩, fun results answers => ?_⟩
  · obtain ⟨results, answers, _⟩ := sound.answers lawful (named ▸ knows) asked sorts
    exact ⟨results, answers⟩
  · obtain ⟨records, sorts, _⟩ := Mapping.attempt_bind_eq_ok_iff.mp answers
    exact ⟨records, sorts⟩
  obtain ⟨records, sorts, _⟩ := Mapping.attempt_bind_eq_ok_iff.mp answers
  obtain ⟨results', answers', stored⟩ := sound.answers lawful (named ▸ knows) asked sorts
  obtain rfl := Except.ok.inj (answers.symm.trans answers')
  refine ⟨fun running => congrArg Prod.fst (Store.execute_of_answers running answers), ?_⟩
  intro objects part
  have unchanged : Object.upsert service.model type objects next.view = .ok ((), next.view) := by
    refine upsert_unchanged lawful known sound.forest identifiable (fun object listed => ?_)
    obtain ⟨id, held⟩ := stored object (part listed)
    rw [named] at held
    obtain ⟨text, identity⟩ := held.exists_identity lawful knows (by rwa [same])
    have carries := held.carries lawful knows identity
    rw [same] at identity carries
    refine ⟨id, ?_, Object.write_stored lawful knows sound.forest held⟩
    rw [EntityType.identifier, identity, Option.getD_some]
    exact ⟨carries, fun other carries' => (unique text other id carries' carries) ▸ Nat.le_refl _⟩
  refine ⟨unchanged, ?_⟩
  rw [Store.addOrUpdate, same]
  split
  · rfl
  · exact Store.run_of_unchanged unchanged

/-- Where the records of a type have different values in their identifying field, no two of them carry one
identifier. -/
private theorem carries_unique {type : EntityType} {field : Field} (keyed : Keyed view.record?)
    (identified : type.idField? = some field)
    (distinct
      : ((view.live.filter (·.entity = type.name)).map (·.value? field.key)).Nodup)
    (text : String) (a b : ObjectId) (left : Carries view.record? type text a)
    (right : Carries view.record? type text b)
    : a = b := by
  have listed {id : ObjectId} (carries : Carries view.record? type text id)
      : ∃ record ∈ view.live.filter (·.entity = type.name),
          record.id = id ∧ record.value? field.key = some (.string text) := by
    obtain ⟨record, other, found, typed, identified', value⟩ := carries
    obtain rfl := Option.some.inj (identified.symm.trans identified')
    exact ⟨record, List.mem_filter.mpr ⟨Context.mem_live_iff.mpr ⟨id, found⟩, by simpa using typed⟩,
      keyed found, value⟩
  obtain ⟨record, inside, rfl, value⟩ := listed left
  obtain ⟨record', inside', rfl, value'⟩ := listed right
  rw [List.inj_on_of_nodup_map distinct inside inside' (value.trans value'.symm)]

/-- A batch of animals. -/
def Zoo.animals (objects : List Object) (typed : ∀ object ∈ objects, object.fits model animal = true)
    : Batch where
  service := .zoo
  type := animal
  objects
  known := by decide
  identifiable := rfl
  typed

/-- An animal whose weight is no number and which has two toys of one identifier is watched, is read and is
written back twice in one batch.
-/
theorem weightless_read
    : let calls : List Call :=
        [.addOrUpdate (Zoo.animals
            [Zoo.animalOf "a" ⟨0x7fc00000⟩ ["t", "t"], Zoo.animalOf "b" ⟨0x3f800000⟩ []]
            (by decide +kernel)),
          .subscribe (.results (.ofTerms Zoo.model Zoo.animal.name [] []) false)]
      let next := (Store.opened Zoo.model.schema).after calls
      let query : Query := .ofTerms Zoo.model Zoo.animal.name [] []
      next.running = true
      ∧ ∃ first second results,
          query.answer next.sorting next.view = .ok (first :: second :: results)
          ∧ (next.execute query).1 = .ok (first :: second :: results)
          ∧ Object.upsert Zoo.model Zoo.animal [second, first, first] next.view = .ok ((), next.view)
          ∧ next.addOrUpdate Zoo.model Zoo.animal.name [second, first, first] = ([], next) := by
  intro calls next query
  have known : Zoo.animal ∈ Service.zoo.model.entities := by decide
  have empty : (Store.opened Zoo.model.schema).records = .empty := rfl
  have asked : query.model = Service.zoo.model := rfl
  have keyed : Keyed next.view.record? := (Sound.after empty calls).forest.keyed
  have running : next.running = true := by decide +kernel
  obtain ⟨answered, kept⟩ :=
    addOrUpdate_read empty calls .zoo known rfl (carries_unique keyed rfl (by decide +kernel)) asked rfl
  obtain ⟨results, answers⟩ := answered.mp ⟨_, rfl⟩
  obtain ⟨fetched, unchanged⟩ := kept results answers
  have two : (query.answer next.sorting next.view).toOption.map List.length = some 2 := by decide +kernel
  rw [answers] at two
  match results, two, fetched running, unchanged with
  | [first, second], _, fetched, unchanged =>
      exact ⟨running, first, second, [], answers, fetched, unchanged _ (by simp)⟩

end EntityStore
