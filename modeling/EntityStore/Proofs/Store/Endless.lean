import EntityStore.Proofs.Mapping.Circular
import EntityStore.Proofs.Store.Forest
import EntityStore.Proofs.Store.Results

/-! Which queries have an answer.
A query answers exactly where each of its records maps to an object or an error. Relations that were
written by jobs may lead in circles, and mapping does not look out for them: a keeper who is an
apprentice of its own, at whatever distance, never maps. No other circles are mapped, and batches and
deletions leave none.
-/

namespace EntityStore

open Mapping Relation

-----------------------------------------------------------------------------------------
-- Circles of the services
-----------------------------------------------------------------------------------------

namespace Service

/-- Only keepers and animals refer to keepers or animals. -/
private theorem keeping_of_refers (service : Service) {source target : String}
    (refers : service.model.Refers source target)
    (keeping : target = Zoo.keeper.name ∨ target = Zoo.animal.name)
    : source = Zoo.keeper.name ∨ source = Zoo.animal.name := by
  have only : ∀ type ∈ service.model.entities, ∀ field ∈ type.fields, ∀ target ∈ field.target?,
      target = Zoo.keeper.name ∨ target = Zoo.animal.name
      → type.name = Zoo.keeper.name ∨ type.name = Zoo.animal.name := by
    cases service <;> decide
  obtain ⟨type, listed, rfl, field, inside, kind⟩ := refers.listed
  exact only type listed field inside target kind keeping

/-- A circle is one of keepers, and only keepers and animals lead to it. -/
theorem keeper_of_circular (service : Service) {source : RecordSource} {start : Node}
    (circular : Circular service.model source start)
    : (start.1 = Zoo.keeper.name ∨ start.1 = Zoo.animal.name)
      ∧ ∃ keeper,
          ReflTransGen (Enters service.model source) start (Zoo.keeper.name, keeper)
          ∧ TransGen (Enters service.model source) (Zoo.keeper.name, keeper)
              (Zoo.keeper.name, keeper) := by
  obtain ⟨⟨entity, record⟩, way, back⟩ := circular
  have reaches : TransGen service.model.Refers entity entity :=
    back.lift Prod.fst (fun _ _ enters => enters.refers)
  obtain ⟨next, refers, _⟩ := TransGen.head'_iff.mp reaches
  obtain ⟨type, listed, rfl, _⟩ := refers.listed
  obtain ⟨_, rfl⟩ := service.keeper_of_reaches_self listed reaches
  refine ⟨?_, record, way, back⟩
  induction way using ReflTransGen.head_induction_on with
  | refl => exact Or.inl rfl
  | head enters _ ih => exact service.keeping_of_refers enters.refers ih

end Service

-----------------------------------------------------------------------------------------
-- Queries
-----------------------------------------------------------------------------------------

/-- The mapping of a record ends with an object or an error where it comes out with either. -/
theorem Query.maps_iff {query : Query} {view : Context} {record : Record}
    : query.Maps view record
      ↔ ∃ result, (view.map query.model query.entity record).run = .ok result := by
  unfold Query.Maps object?
  cases (view.map query.model query.entity record).run with
  | error abort => simp [bind, Except.bind]
  | ok result => cases result <;> simp [bind, Except.bind, pure, Except.pure]

namespace Store

variable {store : Store} {query : Query}

/-- A query is answered where the job that fetches its objects succeeds. -/
theorem execute_isOk_iff (running : store.running = true)
    : (∃ objects, (store.execute query).1 = .ok objects)
      ↔ query.Manages store.sorting store.view
          (store.view.matching query.entityName query.filter) := by
  rw [← query.answer_isOk_iff]
  constructor
  · rintro ⟨objects, answered⟩
    have success : (store.execute query).1.isOk = true := by
      rw [answered]
      rfl
    obtain ⟨_, _, _, answers⟩ := answer_of_success success
    change (query.answer store.sorting store.view).bind _ = _ at answers
    cases answer : query.answer store.sorting store.view with
    | ok objects => exact ⟨objects, rfl⟩
    | error abort =>
        rw [answer] at answers
        cases answers
  · rintro ⟨objects, answers⟩
    exact ⟨objects, congrArg Prod.fst (execute_of_answers running answers)⟩

end Store

/-- On every store with a worker, whatever jobs have written to it, a query of a service is answered
exactly where the records that match can be sorted and each of them is straight, which is where its mapping
ends within some depth, with an object or an error. Sorting answers where the sort keys give the records a
preorder. A record that leads to a circle uses up any depth. That is a circle of keepers, and only keepers
and animals lead to one.
Witness: a way without a circle is no longer than there are records for each entity type.
-/
theorem query_answers_iff {store : Store} (running : store.running = true) (service : Service)
    {type : EntityType} (known : type ∈ service.model.entities) {query : Query}
    (asked : query.model = service.model) (named : query.entity = type.name)
    : let source := store.view.record?
      let matching := store.view.matching type.name query.filter
      ((∃ objects, (store.execute query).1 = .ok objects)
        ↔ (∃ sorted, sortRecords store.sorting source query.sort matching = .ok sorted)
          ∧ ∀ record ∈ matching, Straight service.model source (type.name, record))
      ∧ (PreorderOn (compareBy source query.sort) matching
        → ∃ sorted, sortRecords store.sorting source query.sort matching = .ok sorted)
      ∧ (∀ record,
          Straight service.model source (type.name, record)
          ↔ ∃ depth result,
              (ofRecordWithin service.model source depth type.name record).run = .ok result)
      ∧ ∀ record,
          Circular service.model source (type.name, record)
          → (∀ depth, ofRecordWithin service.model source depth type.name record = endless)
            ∧ (type = Zoo.keeper ∨ type = Zoo.animal)
            ∧ ∃ keeper,
                ReflTransGen (Enters service.model source) (type.name, record)
                  (Zoo.keeper.name, keeper)
                ∧ TransGen (Enters service.model source) (Zoo.keeper.name, keeper)
                    (Zoo.keeper.name, keeper) := by
  intro source matching
  have typed : query.entityName = type.name := by
    rw [Query.entityName, asked, named, service.lawful.named type known]
  refine ⟨?_, fun preorder => ⟨_, sortRecords_of_preorder store.sorting preorder⟩,
    fun record => ⟨fun straight => ?_, ?_⟩, fun record circular => ?_⟩
  · rw [Store.execute_isOk_iff running, Query.Manages, typed]
    refine and_congr_right (fun _ => forall₂_congr (fun record _ => ?_))
    rw [query.maps_iff, asked, named]
    constructor
    · rintro ⟨result, mapped⟩
      exact straight_of_ends mapped
    · exact fun straight => straight.map_isOk
  · obtain ⟨result, mapped⟩ := straight.map_isOk
    exact ⟨_, result, mapped⟩
  · rintro ⟨depth, result, mapped⟩
    exact straight_of_ends mapped
  · obtain ⟨keeping, keepers⟩ := service.keeper_of_circular circular
    have only : ∀ type ∈ service.model.entities,
        type.name = Zoo.keeper.name ∨ type.name = Zoo.animal.name
        → type = Zoo.keeper ∨ type = Zoo.animal := by
      cases service <;> decide
    exact ⟨circular.endless, only type known keeping, keepers⟩

/-- Where a store has seen nothing but batches, deletions and other calls since it had no records, no
record leads to a circle.
-/
theorem after_not_circular {store : Store} (empty : store.records = .empty) (calls : List Call)
    {id : ObjectId} {record : Record}
    (found : (store.after calls).view.record? id = some record) (model : Model) (entity : String)
    : ¬ Circular model (store.after calls).view.record? (entity, record) := by
  have forest := (Sound.after empty calls).forest
  exact not_circular_of_forest forest (forest.keyed found ▸ found)

/-- A keeper who is its own apprentice. -/
private def selfTaught : Record :=
  ((((Record.new ⟨1⟩ Zoo.keeper.name).setValue "badge" (some (.string "k1"))).setValue "name"
    (some (.string ""))).setValue "senior" (some (.bool false))).setRelated "apprentices" [⟨1⟩]

/-- The store after a job has put a keeper into it who is its own apprentice, beside another one. -/
private def guild : Store :=
  ((Store.opened Zoo.model.schema).run (Job.perform
    [.insert Zoo.keeper.name, .setValue ⟨1⟩ "badge" (some (.string "k1")),
      .setValue ⟨1⟩ "senior" (some (.bool false)), .setRelated ⟨1⟩ "apprentices" [⟨1⟩],
      .insert Zoo.keeper.name, .setValue ⟨2⟩ "badge" (some (.string "k2")),
      .setValue ⟨2⟩ "senior" (some (.bool true))])).2.2

/-- The keeper who is its own apprentice is entered again by its own mapping. -/
private theorem selfTaught_circular
    : Circular Zoo.model guild.view.record? (Zoo.keeper.name, selfTaught) := by
  have found : guild.view.record? ⟨1⟩ = some selfTaught := by decide +kernel
  have enters : Enters Zoo.model guild.view.record? (Zoo.keeper.name, selfTaught)
      (Zoo.keeper.name, selfTaught) := by
    let apprentices : Field := .new "apprentices" .many (.reference Zoo.keeper.name)
    have fields : (Zoo.model.entity Zoo.keeper.name).fields
        = Zoo.keeper.fields.take 3 ++ apprentices :: [] := rfl
    have followed : apprentices.followed selfTaught = [] ++ ⟨1⟩ :: [] := by decide +kernel
    exact ⟨0, .member fields rfl rfl rfl followed rfl found⟩
  exact ⟨_, .refl, .single enters⟩

/-- The query for the other keeper is answered, so the record of that one is straight. A query for both
has no answer, and no depth is enough for the keeper who is its own apprentice.
-/
theorem guild_answers
    : let source := guild.view.record?
      let other : Query := .ofTerms Zoo.model Zoo.keeper.name
        [(KeyPath.root.step "badge" false).leaf (.equals (.string "k2"))] []
      guild.running = true
      ∧ (∃ objects, (guild.execute other).1 = .ok objects)
      ∧ (∀ record ∈ guild.view.matching Zoo.keeper.name other.filter,
          Straight Zoo.model source (Zoo.keeper.name, record))
      ∧ ¬ (∃ objects, (guild.execute Zoo.everyone).1 = .ok objects)
      ∧ ∀ depth, ofRecordWithin Zoo.model source depth Zoo.keeper.name selfTaught = endless := by
  intro source other
  have running : guild.running = true := by decide +kernel
  have known : Zoo.keeper ∈ Service.zoo.model.entities := by decide
  have answered : ∃ objects, (guild.execute other).1 = .ok objects := by
    have success : (guild.execute other).1.isOk = true := by decide +kernel
    cases outcome : (guild.execute other).1 with
    | ok objects => exact ⟨objects, rfl⟩
    | error error =>
        rw [outcome] at success
        contradiction
  have matched : selfTaught ∈ guild.view.matching Zoo.keeper.name Zoo.everyone.filter := by decide +kernel
  have asked : other.model = Service.zoo.model := rfl
  have askedAll : Zoo.everyone.model = Service.zoo.model := rfl
  obtain ⟨answers, _, _, _⟩ := query_answers_iff running .zoo known asked rfl
  obtain ⟨everyone, _, _, circles⟩ := query_answers_iff running .zoo known askedAll rfl
  refine ⟨running, answered, (answers.mp answered).2, fun all => ?_, ?_⟩
  · exact ((everyone.mp all).2 selfTaught matched).1 selfTaught_circular
  · exact (circles selfTaught selfTaught_circular).1

/-- A job commits a keeper who is its own apprentice. The record matches a query for keepers, but its
mapping does not end within any depth, with an object or an error, and the query takes the worker with it.
-/
theorem selfTaught_endless
    : ((Store.opened Zoo.model.schema).run (Job.perform
        [.insert Zoo.keeper.name, .setValue ⟨1⟩ "badge" (some (.string "k1")),
          .setValue ⟨1⟩ "senior" (some (.bool false)), .setRelated ⟨1⟩ "apprentices" [⟨1⟩],
          .insert Zoo.keeper.name, .setValue ⟨2⟩ "badge" (some (.string "k2")),
          .setValue ⟨2⟩ "senior" (some (.bool true))])).1 = .ok ()
      ∧ selfTaught ∈ guild.view.matching Zoo.keeper.name Zoo.everyone.filter
      ∧ ¬ (∃ depth result,
          (ofRecordWithin Zoo.model guild.view.record? depth Zoo.keeper.name selfTaught).run
          = .ok result)
      ∧ (guild.execute Zoo.everyone).1.isOk = false
      ∧ (guild.execute Zoo.everyone).2.2.running = false := by
  refine ⟨by decide +kernel, by decide +kernel, ?_, by decide +kernel, by decide +kernel⟩
  rintro ⟨depth, result, ends⟩
  rw [selfTaught_circular.endless depth] at ends
  cases ends

end EntityStore
