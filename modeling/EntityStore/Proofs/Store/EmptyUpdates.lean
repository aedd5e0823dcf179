import EntityStore.Proofs.Batch.Operations
import EntityStore.Proofs.Store.Silence
import EntityStore.Proofs.Store.Updates

/-! Deliveries of updates that tell nothing.
An observer of updates looks for records that a commit has touched before it makes objects of them. So it
delivers wherever there are any, also where none of them maps. Among sound records of a plain type this
does not happen, because every record of the type maps.
-/

namespace EntityStore

variable {query : Query} {before after : Context}

namespace Store

variable {store : Store} {id : Nat} {objects : List Object}

/-- What is delivered to a number comes of what an observer of that number sees.
Witness: induction on the observers; what comes behind one that gives up is not reached.
-/
theorem observe_of_received {sorting : Sorting} {changes : ChangeSet} {view : Context}
    {observers : List (Nat × Observer)}
    (delivered : objects ∈ received id (notify sorting changes view observers).1)
    : ∃ observer observer',
        (id, observer) ∈ observers
        ∧ observer.observe sorting changes view = .ok (observer', some objects) := by
  induction observers with
  | nil => contradiction
  | cons head rest ih =>
      obtain ⟨other, first⟩ := head
      rw [notify] at delivered
      cases seen : first.observe sorting changes view with
      | error abort =>
          rw [seen] at delivered
          contradiction
      | ok result =>
          obtain ⟨first', objects?⟩ := result
          rw [seen] at delivered
          dsimp only at delivered
          rw [received_append, received_own, List.mem_append] at delivered
          rcases delivered with own | later
          · split at own
            · next same =>
                obtain rfl := Option.mem_toList.mp own
                exact ⟨first, first', same ▸ List.mem_cons_self, seen⟩
            · contradiction
          · obtain ⟨observer, observer', listed, sees⟩ := ih later
            exact ⟨observer, observer', List.mem_cons_of_mem _ listed, sees⟩

/-- The records after a job that changes something are what the observers have seen of it. -/
theorem view_of_changed {α : Type} {job : Job α} {answer : α} (running : store.running = true)
    (answers : job store.view = .ok (answer, after)) (changed : ¬ after.changes.isEmpty = true)
    : (store.serve (.job job)).records = after.view
      ∧ (store.serve (.job job)).view = store.landing after := by
  have committed := congrArg Prod.snd (run_of_answer_eq running answers)
  rw [commit_of_changed _ changed] at committed
  rw [serve, committed]
  split <;> exact ⟨rfl, rfl⟩

/-- What a request delivers to an observer that was there before, the observer has made of the commit of a
job, whether the worker goes on or not.
-/
theorem commit_of_delivers (numbered : store.Numbered) {observer : Observer}
    (listed : (id, observer) ∈ store.observers) {request : Request}
    (delivered : objects ∈ received id (store.delivers request))
    : ∃ (α : Type) (job : Job α) (answer : α) (after : Context) (observer' : Observer),
        request = .job job
        ∧ job store.view = .ok (answer, after)
        ∧ (store.serve request).records = after.view
        ∧ observer.observe store.sorting after.changes (store.serve request).view
          = .ok (observer', some objects) := by
  cases request with
  | job job =>
      cases running : store.running with
      | false =>
          rw [delivers, run_of_closed running] at delivered
          contradiction
      | true =>
          cases outcome : job store.view with
          | error abort =>
              rw [delivers] at delivered
              unfold run at delivered
              rw [if_pos running, outcome] at delivered
              cases abort <;> contradiction
          | ok result =>
              obtain ⟨answer, after⟩ := result
              by_cases changed : after.changes.isEmpty = true
              · rw [delivers, run_of_answer_eq running outcome, commit_of_unchanged changed] at delivered
                contradiction
              · obtain ⟨records, view⟩ := view_of_changed running outcome changed
                rw [delivers_of_changed running outcome (Bool.eq_false_iff.mpr changed)] at delivered
                obtain ⟨first, observer', listed', sees⟩ := observe_of_received delivered
                obtain rfl : first = observer := by
                  have same := List.inj_on_of_nodup_map numbered.distinct listed' listed rfl
                  exact (Prod.mk.inj same).2
                exact ⟨_, job, answer, after, observer', rfl, outcome, records, view ▸ sees⟩
  | register subscription =>
      have other : store.nextSubscription ≠ id := by
        have := numbered.given id (List.mem_map_of_mem (f := (·.1)) listed)
        omega
      rw [delivers] at delivered
      unfold subscribe at delivered
      dsimp only at delivered
      split at delivered
      · split at delivered
        · rw [received_own, if_neg other] at delivered
          contradiction
        · contradiction
      · contradiction
  | cancel other => contradiction

end Store

/-- What is told of records is told of some, and is empty exactly where none of them maps. -/
theorem Query.told_empty_iff {sorting : Sorting} {view : Context} {records : List Record}
    {objects : List Object} (told : query.told sorting view records = .ok [objects])
    : records ≠ [] ∧ (objects = [] ↔ ∀ record ∈ records, query.object? view record = none) := by
  unfold Query.told at told
  split at told
  · cases told
  · next filled =>
      obtain ⟨sorted, sorts, same⟩ := Mapping.attempt_bind_eq_ok_iff.mp told
      cases same
      refine ⟨filled, List.filterMap_eq_nil_iff.trans ?_⟩
      simp only [(sortRecords_perm sorts).mem_iff]

/-- Every record of a plain type maps where the records are sound. -/
theorem Sound.maps {types : Model} (sound : Sound types after) (lawful : query.model.Lawful types)
    (known : query.model.Knows query.entity) (plain : (query.model.entity query.entity).Plain)
    {id : ObjectId} {record : Record} (found : after.record? id = some record)
    (typed : record.entity = query.entityName)
    : query.object? after record ≠ none := by
  rw [Query.entityName, query.model.entity_name] at typed
  obtain ⟨object, stored⟩ := sound.forest.exists_stored lawful known plain found typed
    (sound.complete id) (fun x _ => sound.complete x)
  have maps : query.object? after record = some object := by
    unfold Query.object?
    rw [Context.map_of_stored sound.forest found stored]
    rfl
  rw [maps]
  exact Option.some_ne_none object

/-- When a delivery of updates tells nothing. Whatever a store has served since it was opened on any medium,
every delivery to an observer of updates comes of a commit that has inserted or changed records which
match; it is empty exactly where none of these maps. So it is never empty where the records are sound
after the commit and the query is for a plain type.
-/
theorem updates_delivery_empty_iff {sorting : Sorting} {schema : Schema} {medium : Medium}
    {store : Store} (opens : Store.openOn sorting schema medium = .ok store) (earlier : List Store.Request)
    (operate : ∀ request ∈ earlier, request.Operates) {request : Store.Request}
    (operates : request.Operates)
    {id : Nat} {query : Query} (listed : (id, .updates query) ∈ (store.serveAll earlier).observers)
    {objects : List Object}
    (delivered : objects ∈ Store.received id ((store.serveAll earlier).delivers request))
    : let before := (store.serveAll earlier).view
      let after := ((store.serveAll earlier).serve request).view
      (∃ inserted changed,
        query.Touches before after inserted changed
        ∧ inserted ++ changed ≠ []
        ∧ (objects = [] ↔ ∀ record ∈ inserted ++ changed, query.object? after record = none))
      ∧ ∀ types : Model,
          Sound types after
          → query.model.Lawful types
          → query.model.Knows query.entity
          → (query.model.entity query.entity).Plain
          → objects ≠ [] := by
  intro before after
  obtain ⟨_, unobserved, keyed⟩ := Store.keyed_of_openOn opens
  have numbered := (Store.Numbered.of_unobserved unobserved).serveAll earlier
  obtain ⟨_, job, answer, left, observer, rfl, answers, records, sees⟩ :=
    Store.commit_of_delivers numbered listed delivered
  have keyed : Keyed left.view.get? :=
    Job.Operates.keyed operates (Store.keyed_serveAll keyed operate) answers
  have committed : left.committed = (store.serveAll earlier).records :=
    Job.Operates.committed operates answers
  obtain ⟨_, told⟩ := observe_updates sees
  have view : after.view = left.view := records
  rw [left.changes_eq_difference, committed, ← view] at told
  have keyed : Keyed after.record? := fun found => keyed (records ▸ found)
  have start (x : ObjectId) : before.record? x = (store.serveAll earlier).records.get? x := rfl
  have touches : query.Touches before after _ _ := touched_touches keyed start
  obtain ⟨filled, empty⟩ := Query.told_empty_iff told
  refine ⟨⟨_, _, touches, filled, empty⟩, fun types sound lawful known plain none => ?_⟩
  obtain ⟨record, inside⟩ := List.exists_mem_of_ne_nil _ filled
  have fails := empty.mp none record inside
  obtain ⟨⟨typed, _⟩, x, found⟩
      : query.Matches after record ∧ ∃ x, after.record? x = some record := by
    rcases List.mem_append.mp inside with inside | inside
    · obtain ⟨fits, x, found, _⟩ := (touches.mem_inserted record).mp inside
      exact ⟨fits, x, found⟩
    · obtain ⟨fits, x, _, found, _⟩ := (touches.mem_changed record).mp inside
      exact ⟨fits, x, found⟩
  exact sound.maps lawful known plain found typed fails

namespace Zoo

/-- Every animal. -/
private def everyAnimal : Query :=
  .ofTerms model animal.name [] []

/-- An animal comes into its cage. -/
private def arrival : Store.Request :=
  .job (Object.upsert model animal [animalOf "a" ⟨0x3f800000⟩ []])

/-- All cages are deleted. -/
private def removal : Store.Request :=
  .job (Query.deleteMatches (.ofTerms model cage.name [] []))

/-- A store that a subscriber to updates of animals has watched from the start. -/
private def watched : Store :=
  (Store.opened model.schema).serveAll [.register (.updates everyAnimal), arrival]

/-- The animal without its cage is touched, but does not map. -/
private theorem nothing_received : [] ∈ Store.received 1 (watched.delivers removal) := by
  have one : (Store.received 1 (watched.delivers removal)).map (·.length) = [0] := by
    decide +kernel
  obtain ⟨objects, listed, none⟩ := List.mem_map.mp (one ▸ List.mem_singleton_self 0)
  exact List.length_eq_zero_iff.mp none ▸ listed

/-- An animal whose cage is deleted is an update without an animal: the delivery of that commit is empty. -/
theorem removal_tells_nothing
    : ¬ ∀ objects ∈ Store.received 1 (watched.delivers removal), objects ≠ [] :=
  fun filled => filled [] nothing_received rfl

/-- The subscriber gets an empty delivery, because the animal is touched and does not map. -/
theorem removal_touches
    : let after := (watched.serve removal).view
      (1, .updates everyAnimal) ∈ watched.observers
      ∧ [] ∈ Store.received 1 (watched.delivers removal)
      ∧ ∃ inserted changed,
          everyAnimal.Touches watched.view after inserted changed
          ∧ inserted ++ changed ≠ []
          ∧ ∀ record ∈ inserted ++ changed, everyAnimal.object? after record = none := by
  intro after
  have opens : Store.openOn .insertion model.schema .memory = .ok (Store.opened model.schema) := rfl
  have operates : arrival.Operates := upsert_operates _
  have operates' : removal.Operates := Query.deleteMatches_operates _
  have listed : (1, .updates everyAnimal) ∈ watched.observers := by
    obtain ⟨running, unobserved, keyed⟩ := Store.keyed_of_openOn opens
    have attends := (Store.attends_of_register everyAnimal running (.of_unobserved unobserved) keyed).1
    have number : (Store.opened model.schema).nextSubscription = 1 := rfl
    rw [number] at attends
    have withstands := (Store.serve_running_iff attends.running arrival).mp (by decide +kernel)
    have kept : arrival ≠ .cancel 1 := by
      rw [arrival]
      exact Store.Request.noConfusion
    simp only [watched, Store.serveAll, List.foldl_cons, List.foldl_nil]
    exact (attends.serve operates withstands kept).1.listed
  obtain ⟨⟨inserted, changed, touches, filled, empty⟩, _⟩ :=
    updates_delivery_empty_iff opens [.register (.updates everyAnimal), arrival]
      (by simpa [Store.Request.Operates] using operates) operates' listed nothing_received
  exact ⟨listed, nothing_received, inserted, changed, touches, filled, empty.mp rfl⟩

end Zoo

end EntityStore
