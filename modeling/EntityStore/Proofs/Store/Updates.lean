import EntityStore.Proofs.Store.Refinement
import EntityStore.Proofs.Store.Reopening
import EntityStore.Proofs.Store.Results

/-! What a subscriber to updates is told.
A commit tells an observer of updates what sets the records apart from those before. So each commit is
reported once, by the objects of what it has inserted or changed and of nothing else, and a job that
commits nothing is not reported at all.
-/

namespace EntityStore

variable {query : Query} {before after : Context}

-----------------------------------------------------------------------------------------
-- What there is to tell
-----------------------------------------------------------------------------------------

namespace Query

/-- The record is of the query's entity type and matches its filter. -/
def Matches (query : Query) (view : Context) (record : Record) : Prop :=
  record.entity = query.entityName ∧ query.filter.evaluate view.record? record = true

/-- The records that match a query and were not there before, and those that were there but not the same,
each by ascending identifiers. -/
structure Touches (query : Query) (before after : Context) (inserted changed : List Record)
    : Prop where
  mem_inserted
    : ∀ record,
        record ∈ inserted
        ↔ query.Matches after record
          ∧ ∃ id, after.record? id = some record ∧ before.record? id = none
  mem_changed
    : ∀ record,
        record ∈ changed
        ↔ query.Matches after record
          ∧ ∃ id old, after.record? id = some record ∧ before.record? id = some old ∧ old ≠ record
  ascending
    : inserted.Pairwise (fun earlier later => earlier.id.rank < later.id.rank)
      ∧ changed.Pairwise (fun earlier later => earlier.id.rank < later.id.rank)

/-- The object of a record, if it maps. -/
def object? (query : Query) (view : Context) (record : Record) : Option Object :=
  match view.map query.model query.entity record with
  | .ok (.ok object) => some object
  | _ => none

/-- What is delivered for the records that a commit touches: nothing if there are none, and else the objects
of those that map, in the order of the query, if sorting does not give up. -/
def told (query : Query) (sorting : Sorting) (view : Context)
    : List Record → Attempt (List (List Object))
  | [] => pure []
  | records => do
      let sorted ← sortRecords sorting view.record? query.sort records
      pure [sorted.filterMap (query.object? view)]

/-- The objects of records are those of the records that map, one for each. -/
theorem objects_eq_filterMap {view : Context} {records : List Record} {objects : List Object}
    (answers : query.objects view records = .ok objects)
    : objects = records.filterMap (query.object? view) := by
  induction records generalizing objects with
  | nil =>
      cases answers
      rfl
  | cons record records ih =>
      obtain ⟨object?, here, later⟩ := Mapping.attempt_bind_eq_ok_iff.mp answers
      obtain ⟨others, rest, same⟩ := Mapping.attempt_bind_eq_ok_iff.mp later
      cases same
      rw [ih rest]
      cases object? with
      | none =>
          have absent : query.object? view record = none := by
            unfold Query.object?
            split
            · next object mapped =>
                have found := Mapping.object?_eq_some_iff.mpr mapped
                rw [here] at found
                cases found
            · rfl
          rw [List.filterMap_cons_none absent]
          rfl
      | some object =>
          have mapped := Mapping.object?_eq_some_iff.mp here
          have found : query.object? view record = some object := by
            unfold Query.object?
            rw [mapped]
            rfl
          rw [List.filterMap_cons_some found]
          rfl

/-- Where nothing has changed there is nothing to tell. -/
theorem Touches.of_unchanged {inserted changed : List Record}
    (touches : query.Touches before after inserted changed)
    (same : ∀ id, after.record? id = before.record? id)
    : inserted = [] ∧ changed = [] := by
  refine ⟨List.eq_nil_iff_forall_not_mem.mpr (fun record listed => ?_),
    List.eq_nil_iff_forall_not_mem.mpr (fun record listed => ?_)⟩
  · obtain ⟨_, id, found, absent⟩ := (touches.mem_inserted record).mp listed
    rw [same, absent] at found
    contradiction
  · obtain ⟨_, id, old, found, earlier, differs⟩ := (touches.mem_changed record).mp listed
    rw [same, earlier, Option.some.injEq] at found
    exact differs found

/-- Unchanged records touch nothing. -/
theorem Touches.nil (same : ∀ id, after.record? id = before.record? id)
    : query.Touches before after [] [] := by
  refine ⟨fun record => ?_, fun record => ?_, .nil, .nil⟩
  · refine iff_of_false List.not_mem_nil ?_
    rintro ⟨_, id, found, absent⟩
    rw [same, absent] at found
    contradiction
  · refine iff_of_false List.not_mem_nil ?_
    rintro ⟨_, id, old, found, earlier, differs⟩
    rw [same, earlier, Option.some.injEq] at found
    exact differs found

end Query

-----------------------------------------------------------------------------------------
-- What an observer tells
-----------------------------------------------------------------------------------------

/-- The records of identifiers that match a query. -/
def Query.among (query : Query) (view : Context) (ids : List ObjectId) : List Record :=
  (ids.filterMap view.record?).filter (fun record =>
    record.entity = query.entityName && query.filter.evaluate view.record? record)

private theorem Query.mem_among {view : Context} {ids : List ObjectId} {record : Record}
    : record ∈ query.among view ids
      ↔ query.Matches view record ∧ ∃ id ∈ ids, view.record? id = some record := by
  rw [among, List.mem_filter, List.mem_filterMap, Bool.and_eq_true, decide_eq_true_eq]
  exact and_comm

private theorem Query.among_ascending {view : Context} (keyed : Keyed view.record?)
    {ids : List ObjectId} (ascending : AscendingIds ids)
    : (query.among view ids).Pairwise (fun earlier later => earlier.id.rank < later.id.rank) := by
  refine List.Pairwise.filter _ (List.Pairwise.filterMap _ ?_ ascending)
  intro a b less record found record' found'
  rwa [keyed found, keyed found']

/-- What a commit touches is what the observer makes objects of. -/
theorem touched_touches (keyed : Keyed after.record?) {start : Arena}
    (committed : ∀ id, before.record? id = start.get? id)
    : let changes := start.difference after.view
      query.Touches before after (query.among after changes.inserted)
        (query.among after changes.updated) := by
  intro changes
  obtain ⟨inserted, updated⟩ := start.ascending_difference after.view
  refine ⟨fun record => ?_, fun record => ?_, ?_⟩
  · rw [Query.mem_among]
    refine and_congr_right (fun _ => exists_congr (fun id => ?_))
    rw [Arena.mem_inserted_iff, after.get?_view, committed]
    constructor
    · rintro ⟨⟨_, absent⟩, found⟩
      exact ⟨found, absent⟩
    · rintro ⟨found, absent⟩
      exact ⟨⟨⟨record, found⟩, absent⟩, found⟩
  · rw [Query.mem_among]
    refine and_congr_right (fun _ => exists_congr (fun id => ?_))
    rw [Arena.mem_updated_iff, after.get?_view, committed]
    constructor
    · rintro ⟨⟨_, ⟨old, earlier⟩, differs⟩, found⟩
      refine ⟨old, found, earlier, ?_⟩
      rintro rfl
      exact differs (earlier.trans found.symm)
    · rintro ⟨old, found, earlier, differs⟩
      refine ⟨⟨⟨record, found⟩, ⟨old, earlier⟩, fun same => ?_⟩, found⟩
      rw [earlier, found, Option.some.injEq] at same
      exact differs same
  · exact ⟨Query.among_ascending keyed inserted, Query.among_ascending keyed updated⟩

/-- An observer of updates stays what it is, and delivers what there is to tell. -/
theorem observe_updates {sorting : Sorting} {changes : ChangeSet} {view : Context}
    {observer : Observer} {objects? : Option (List Object)}
    (seen : (Observer.updates query).observe sorting changes view = .ok (observer, objects?))
    : observer = .updates query
      ∧ query.told sorting view
          (query.among view changes.inserted ++ query.among view changes.updated)
        = .ok objects?.toList := by
  have split : Observer.touched query changes view
      = query.among view changes.inserted ++ query.among view changes.updated := by
    unfold Observer.touched Query.among ChangeSet.upserted
    rw [List.filterMap_append, List.filter_append]
  rw [← split]
  rw [Observer.observe] at seen
  cases touched : Observer.touched query changes view with
  | nil =>
      rw [touched] at seen
      cases seen
      exact ⟨rfl, rfl⟩
  | cons record rest =>
      rw [touched] at seen
      obtain ⟨sorted, sorts, later⟩ := Mapping.attempt_bind_eq_ok_iff.mp seen
      obtain ⟨objects, answers, same⟩ := Mapping.attempt_bind_eq_ok_iff.mp later
      cases same
      refine ⟨rfl, Mapping.attempt_bind_eq_ok_iff.mpr ⟨sorted, sorts, ?_⟩⟩
      rw [Query.objects_eq_filterMap answers]
      rfl

namespace Store

variable {store : Store} {id : Nat}

-----------------------------------------------------------------------------------------
-- One request
-----------------------------------------------------------------------------------------

/-- What a request has delivered to a subscriber reports what it has committed. -/
structure Reports (store : Store) (query : Query) (id : Nat) (request : Request) : Prop where
  /-- At most one delivery, of all that was inserted or changed and matches. -/
  told
    : ∃ inserted changed,
        query.Touches store.view (store.serve request).view inserted changed
        ∧ query.told store.sorting (store.serve request).view (inserted ++ changed)
          = .ok (received id (store.delivers request))
  /-- Where nothing is committed nothing is delivered. -/
  silent
    : (store.serve request).records = store.records
      → received id (store.delivers request) = []

/-- A running store whose records stand under their own identifiers keeps an observer of updates. -/
structure Attends (store : Store) (query : Query) (id : Nat) : Prop where
  running : store.running = true
  numbered : store.Numbered
  keyed : Keyed store.records.get?
  listed : (id, Observer.updates query) ∈ store.observers

/-- What is told of a request reports it where it is nothing for unchanged records. -/
theorem Reports.of_told {request : Request} {inserted changed : List Record}
    (touches : query.Touches store.view (store.serve request).view inserted changed)
    (got
      : query.told store.sorting (store.serve request).view (inserted ++ changed)
        = .ok (received id (store.delivers request)))
    : store.Reports query id request := by
  refine ⟨⟨inserted, changed, touches, got⟩, fun same => ?_⟩
  obtain ⟨rfl, rfl⟩ := touches.of_unchanged (fun x => congrArg (Table.get? · x) same)
  exact (Except.ok.inj got).symm

/-- A request that the worker withstands is reported, and keeps an observer that it does not cancel.
Witness: only the commit of a job changes the records, and the observer is told what it has changed.
-/
theorem Attends.serve (attends : store.Attends query id) {request : Request}
    (operates : request.Operates) (withstands : store.Withstands request)
    (kept : request ≠ .cancel id)
    : (store.serve request).Attends query id ∧ store.Reports query id request := by
  have running := (serve_running_iff attends.running request).mpr withstands
  have numbered := attends.numbered.serve request
  obtain ⟨observer, objects?, listed, got,
      ⟨rfl, rfl, same⟩ | ⟨_, job, answer, after, rfl, answers, records, seen⟩⟩ :=
    serve_listed attends.running attends.numbered attends.listed withstands kept
  · have records : (store.serve request).records = store.records := Table.ext_get? same
    refine ⟨⟨running, numbered, records ▸ attends.keyed, listed⟩, ?_⟩
    exact .of_told (.nil same) (congrArg Except.ok got.symm)
  · have keyed : Keyed after.view.get? := Job.Operates.keyed operates attends.keyed answers
    have committed : after.committed = store.records := Job.Operates.committed operates answers
    obtain ⟨rfl, delivered⟩ := observe_updates seen
    refine ⟨⟨running, numbered, records ▸ keyed, listed⟩, ?_⟩
    have view : (store.serve (.job job)).view.view = after.view := records
    rw [after.changes_eq_difference, committed, ← view] at delivered
    refine .of_told (touched_touches ?_ (fun _ => rfl)) (got ▸ delivered)
    intro x record found
    exact keyed (records ▸ found)

-----------------------------------------------------------------------------------------
-- Any requests
-----------------------------------------------------------------------------------------

/-- Requests that the worker withstands keep an observer that none of them cancels.
Witness: induction on the requests.
-/
theorem Attends.serveAll (attends : store.Attends query id) {requests : List Request}
    (operate : ∀ request ∈ requests, request.Operates) (withstands : store.WithstandsAll requests)
    (kept : .cancel id ∉ requests)
    : (store.serveAll requests).Attends query id := by
  induction requests generalizing store with
  | nil => exact attends
  | cons request requests ih =>
      rw [List.mem_cons, not_or] at kept
      obtain ⟨operates, operate⟩ := List.forall_mem_cons.mp operate
      have step := (attends.serve operates withstands.1 (Ne.symm kept.1)).1
      exact ih step operate withstands.2 kept.2

/-- Requests leave the records alone, unless they are jobs, which leave what they see at their end. -/
theorem serve_records (store : Store) (request : Request)
    : (store.serve request).records = store.records
      ∨ ∃ (α : Type) (job : Job α) (answer : α) (after : Context),
          request = .job job
          ∧ job store.view = .ok (answer, after)
          ∧ (store.serve request).records = after.view := by
  cases request with
  | job job =>
      cases running : store.running with
      | false => exact Or.inl (by rw [serve, run_of_closed running])
      | true =>
          cases outcome : job store.view with
          | ok result =>
              obtain ⟨answer, after⟩ := result
              have records := (run_of_answers running outcome).1.records
              split at records
              · exact Or.inl records
              · exact Or.inr ⟨_, job, answer, after, rfl, outcome, records⟩
          | error abort =>
              have kept : (store.run job).2.2.records = store.records := by
                unfold Store.run
                rw [if_pos running, outcome]
                cases abort <;> rfl
              exact Or.inl kept
  | register subscription =>
      refine Or.inl ?_
      unfold serve subscribe
      dsimp only
      split
      · split <;> rfl
      · rfl
  | cancel other => exact Or.inl rfl

/-- Requests that operate keep records under their own identifiers. -/
theorem keyed_serveAll (keyed : Keyed store.records.get?) {requests : List Request}
    (operate : ∀ request ∈ requests, request.Operates)
    : Keyed (store.serveAll requests).records.get? := by
  induction requests generalizing store with
  | nil => exact keyed
  | cons request requests ih =>
      obtain ⟨operates, operate⟩ := List.forall_mem_cons.mp operate
      refine ih ?_ operate
      rcases store.serve_records request with records | ⟨_, job, answer, after, rfl, answers, records⟩
      · exact records ▸ keyed
      · exact records ▸ Job.Operates.keyed operates keyed answers

/-- A store opens with its worker, without observers, and with its records under their own identifiers. -/
theorem keyed_of_openOn {sorting : Sorting} {schema : Schema} {medium : Medium}
    (opens : openOn sorting schema medium = .ok store)
    : store.running = true ∧ store.observers = [] ∧ Keyed store.records.get? := by
  unfold openOn at opens
  cases loaded : medium.load with
  | error _ =>
      rw [loaded] at opens
      contradiction
  | ok snapshot =>
      rw [loaded] at opens
      obtain rfl := Except.ok.inj opens
      refine ⟨rfl, rfl, ?_⟩
      intro id record found
      cases medium with
      | file content =>
          cases content with
          | none =>
              cases loaded
              contradiction
          | some text => exact Snapshot.keyed_of_read? (load_file_iff.mp loaded) found
      | directory => contradiction
      | memory =>
          cases loaded
          contradiction
      | blocked =>
          cases loaded
          contradiction

/-- A registration that the worker withstands leaves an observer of updates and delivers nothing. -/
theorem attends_of_register (query : Query) (running : store.running = true) (numbered : store.Numbered)
    (keyed : Keyed store.records.get?)
    : (store.serve (.register (.updates query))).Attends query store.nextSubscription
      ∧ received store.nextSubscription (store.delivers (.register (.updates query))) = [] := by
  have starts
      : (Subscription.updates query).start store.sorting store.view = .ok (.updates query, none) := rfl
  have registered := subscribe_of_starts running starts
  refine ⟨⟨?_, numbered.serve _, ?_, ?_⟩, ?_⟩
  · exact (serve_running_iff running _).mpr trivial
  · rw [serve, registered]
    exact keyed
  · rw [serve, registered]
    exact List.mem_append_right _ List.mem_cons_self
  · rw [delivers, registered]
    rfl

end Store

/-- A subscriber to updates is told every change exactly once. Whatever jobs, registrations and cancellations
a store has served since it was opened, and whatever it serves after the registration, as long as its worker
withstands them: the registration delivers nothing, and each request after it, up to the cancellation of the
subscriber, is reported to it. So a commit is told in one delivery at most, of the objects of all the
records of the query's type that it has inserted or changed, that match and that map, in the order of the
query; a job that commits nothing is not told.
Witness: an observer of updates stays as it is, and every commit is shown to it.
-/
theorem updates_subscriber {sorting : Sorting} {schema : Schema} {medium : Medium} {store : Store}
    (opens : Store.openOn sorting schema medium = .ok store) (query : Query)
    (earlier later : List Store.Request)
    (operate : ∀ request ∈ earlier ++ later, request.Operates)
    (withstands : store.WithstandsAll (earlier ++ .register (.updates query) :: later))
    : let before := store.serveAll earlier
      let id := (before.subscribe (.updates query)).1
      let registered := before.serve (.register (.updates query))
      Store.received id (before.delivers (.register (.updates query))) = []
      ∧ ∀ past request future,
          later = past ++ request :: future
          → .cancel id ∉ past
          → (registered.serveAll past).Reports query id request := by
  intro before id registered
  obtain ⟨running, unobserved, keyed⟩ := Store.keyed_of_openOn opens
  obtain ⟨first, register, rest⟩ := Store.withstandsAll_append.mp withstands
  obtain ⟨operate, operate'⟩ := List.forall_mem_append.mp operate
  have running' : before.running = true := (Store.serveAll_running_iff running earlier).mpr first
  have numbered : before.Numbered := (Store.Numbered.of_unobserved unobserved).serveAll earlier
  have number : id = before.nextSubscription := before.subscribe_number _
  obtain ⟨attends, silent⟩ := Store.attends_of_register query running' numbered
    (Store.keyed_serveAll keyed operate)
  refine ⟨number ▸ silent, fun past request future split kept => ?_⟩
  subst split
  obtain ⟨operate, operate'⟩ := List.forall_mem_append.mp operate'
  obtain ⟨withstands, withstands', _⟩ := Store.withstandsAll_append.mp rest
  have attends : (registered.serveAll past).Attends query id :=
    number ▸ attends.serveAll operate withstands (number ▸ kept)
  by_cases cancels : request = .cancel id
  · subst cancels
    exact .of_told (.nil (fun _ => rfl)) rfl
  · exact (attends.serve (operate' request List.mem_cons_self) withstands' cancels).2

/-- A book of some pages is inserted under the next identifier. -/
private def shelved (id : ObjectId) (name : String) (pages : Int64) : List Operation :=
  [.insert Library.book.name, .setValue id "id" (some (.string name)),
    .setValue id "pages" (some (.integer pages)), .setValue id "format" (some (.string "ebook"))]

/-- Two books are inserted; one of them is changed and changed back, while the other gets a title and a
longer one is inserted; a book comes and goes; a job gives up; a book without pages is inserted; and a
book is spoilt.
-/
private def restocking : List Store.Request :=
  [.job (Job.perform (shelved ⟨1⟩ "a" 20 ++ shelved ⟨2⟩ "b" 300)),
    .job (Job.perform (shelved ⟨3⟩ "c" 500
      ++ [.setValue ⟨1⟩ "pages" (some (.integer 400)), .setValue ⟨2⟩ "title" (some (.string "Roots")),
        .setValue ⟨1⟩ "pages" (some (.integer 20))])),
    .job (Job.perform (shelved ⟨4⟩ "d" 50 ++ [.delete ⟨4⟩])),
    .job (Job.panic none : Job Unit),
    .job (Job.perform (shelved ⟨5⟩ "e" 0)),
    .job (Job.perform [.setValue ⟨2⟩ "format" (some (.string "scroll"))])]

/-- A subscriber to books with pages, the longest first, is told of the restocking in three deliveries. -/
theorem restocking_updates
    : let store := Store.opened Library.model.schema
      let query := Library.longBooks 0
      let earlier : List Store.Request := [.register (.results query false)]
      let before := store.serveAll earlier
      let id := (before.subscribe (.updates query)).1
      let registered := before.serve (.register (.updates query))
      store.WithstandsAll (earlier ++ .register (.updates query) :: restocking)
      ∧ (Store.received id (before.delivers (.register (.updates query))) = []
        ∧ ∀ past request future,
            restocking = past ++ request :: future
            → .cancel id ∉ past
            → (registered.serveAll past).Reports query id request)
      ∧ (Store.received id (registered.deliversAll restocking)).map
          (·.map (·.identity? Library.book))
        = [[some "b", some "a"], [some "c", some "b"], []] := by
  intro store query earlier before id registered
  have opens : Store.openOn .insertion Library.model.schema .memory = .ok store := rfl
  have withstands : store.WithstandsAll (earlier ++ .register (.updates query) :: restocking) :=
    (Store.serveAll_running_iff rfl _).mp (by decide +kernel)
  have operate : ∀ request ∈ earlier ++ restocking, request.Operates := by
    have silent : (Job.panic none : Job Unit).Operates := fun _ _ _ answers => nomatch answers
    simp only [earlier, restocking, List.singleton_append, List.forall_mem_cons]
    exact ⟨trivial, Job.perform_operates _, Job.perform_operates _, Job.perform_operates _, silent,
      Job.perform_operates _, Job.perform_operates _, fun _ listed => absurd listed List.not_mem_nil⟩
  refine ⟨withstands, ?_, by decide +kernel⟩
  exact updates_subscriber opens query earlier restocking operate withstands

end EntityStore
