import EntityStore.Proofs.Context.Sight
import EntityStore.Proofs.Object.Exact
import EntityStore.Proofs.Store.Survival

/-! What a subscriber to results is told.
An observer of results remembers what it has seen last, and that is what its query answers: a commit
that changes the answer is told at once, and everything else leaves the answer as it is. The answer
depends on the committed records only, so nothing but a commit can change it.
-/

namespace EntityStore

-----------------------------------------------------------------------------------------
-- Answers
-----------------------------------------------------------------------------------------

namespace Query

/-- No answer to the query has floating point numbers. -/
def Exact (query : Query) : Prop :=
  ∀ {sorting context objects},
    query.answer sorting context = .ok objects → Object.AllExact objects

/-- A query for a type without floating point numbers has no answer with any. -/
theorem exact_of_known {types : Model} {query : Query} (lawful : query.model.Lawful types)
    (known : query.model.Knows query.entity) (exact : (query.model.entity query.entity).Exact)
    : query.Exact := by
  intro sorting context objects fetches
  obtain ⟨records, -, answers⟩ := Mapping.attempt_bind_eq_ok_iff.mp fetches
  clear fetches
  induction records generalizing objects with
  | nil =>
      cases answers
      trivial
  | cons record records ih =>
      obtain ⟨object?, here, later⟩ := Mapping.attempt_bind_eq_ok_iff.mp answers
      obtain ⟨others, rest, same⟩ := Mapping.attempt_bind_eq_ok_iff.mp later
      cases same
      cases object? with
      | none => exact ih rest
      | some object =>
          have mapped := Mapping.object?_eq_some_iff.mp here
          exact ⟨Mapping.exact_of_pure lawful _ known exact mapped, ih rest⟩

/-- An answer depends on nothing but the records that are seen. -/
theorem answer_congr (query : Query) (sorting : Sorting) {a b : Context}
    (same : ∀ id, a.record? id = b.record? id)
    : query.answer sorting a = query.answer sorting b := by
  have records : a.record? = b.record? := funext same
  have objects : query.objects a = query.objects b := by
    funext list
    induction list with
    | nil => rfl
    | cons record rest ih => rw [Query.objects, Query.objects, Context.map_congr records, ih]
  rw [answer, answer, Query.records, Query.records, Context.fetch, Context.fetch, records,
    Context.matching_congr records, objects]

end Query

namespace Store

variable {store : Store} {query : Query} {id : Nat} {current : List Object}

/-- Asking for the objects of a query tells its answer, and changes nothing. -/
theorem execute_of_answers (running : store.running = true)
    (answers : query.answer store.sorting store.view = .ok current)
    : store.execute query = (.ok current, [], store) := by
  have fetched : query.fetch store.sorting store.view = .ok (current, store.view) := by
    change (query.answer store.sorting store.view).bind _ = _
    rw [answers]
    rfl
  have told : (store.execute query).1 = .ok current := by
    unfold execute Store.run
    rw [if_pos running, fetched]
    exact if_pos running
  exact Prod.ext told (run_of_unchanged fetched)

/-- No request changes the way in which records are sorted. -/
theorem serve_sorting (store : Store) (request : Request)
    : (store.serve request).sorting = store.sorting := by
  cases request with
  | job job => exact store.run_sorting job
  | register subscription =>
      unfold serve subscribe
      dsimp only
      split
      · split <;> rfl
      · rfl
  | cancel id => rfl

-----------------------------------------------------------------------------------------
-- Deliveries
-----------------------------------------------------------------------------------------

/-- What is delivered to one subscription. -/
def received (id : Nat) (deliveries : List Delivery) : List (List Object) :=
  (deliveries.filter (·.subscription = id)).map (·.objects)

theorem received_append (id : Nat) (first second : List Delivery)
    : received id (first ++ second) = received id first ++ received id second := by
  simp [received]

/-- What an observer delivers goes to its own subscription. -/
theorem received_own (id other : Nat) (objects? : Option (List Object))
    : received id (objects?.map (⟨other, ·⟩ : List Object → Delivery)).toList
      = if other = id then objects?.toList else [] := by
  cases objects? with
  | none => simp [received]
  | some objects => by_cases same : other = id <;> simp [received, same]

/-- Nothing is delivered to a number that no observer has. -/
theorem received_of_unlisted {sorting : Sorting} {changes : ChangeSet} {view : Context}
    (observers : List (Nat × Observer)) (unlisted : id ∉ observers.map (·.1))
    : received id (notify sorting changes view observers).1 = [] := by
  induction observers with
  | nil => rfl
  | cons head rest ih =>
      obtain ⟨other, observer⟩ := head
      rw [List.map_cons, List.mem_cons, not_or] at unlisted
      rw [notify]
      split
      · rfl
      · rw [received_append, received_own, if_neg (Ne.symm unlisted.1), ih unlisted.2]
        rfl

/-- Telling the observers keeps their numbers. -/
theorem notify_numbers {sorting : Sorting} {changes : ChangeSet} {view : Context}
    {observers observers' : List (Nat × Observer)}
    (told : (notify sorting changes view observers).2 = some observers')
    : observers'.map (·.1) = observers.map (·.1) := by
  induction observers generalizing observers' with
  | nil =>
      cases told
      rfl
  | cons head rest ih =>
      obtain ⟨other, observer⟩ := head
      rw [notify] at told
      split at told
      · cases told
      · obtain ⟨rest', later, rfl⟩ := Option.map_eq_some_iff.mp told
        rw [List.map_cons, List.map_cons, ih later]

/-- Each observer sees the commit, is what it has become then, and delivers what it has to.
Witness: induction on the observers; the others have other numbers.
-/
theorem notify_listed {sorting : Sorting} {changes : ChangeSet} {view : Context}
    {observers observers' : List (Nat × Observer)} {observer : Observer}
    (distinct : (observers.map (·.1)).Nodup)
    (told : (notify sorting changes view observers).2 = some observers')
    (listed : (id, observer) ∈ observers)
    : ∃ observer' objects?,
        observer.observe sorting changes view = .ok (observer', objects?)
        ∧ (id, observer') ∈ observers'
        ∧ received id (notify sorting changes view observers).1 = objects?.toList := by
  induction observers generalizing observers' with
  | nil => contradiction
  | cons head rest ih =>
      obtain ⟨other, first⟩ := head
      rw [List.map_cons, List.nodup_cons] at distinct
      rw [notify] at told ⊢
      cases seen : first.observe sorting changes view with
      | error abort => simp [seen] at told
      | ok result =>
          obtain ⟨first', objects?⟩ := result
          simp only [seen] at told
          obtain ⟨rest', later, rfl⟩ := Option.map_eq_some_iff.mp told
          dsimp only
          rw [received_append, received_own]
          rcases List.mem_cons.mp listed with same | listed
          · cases same
            refine ⟨first', objects?, seen, List.mem_cons_self, ?_⟩
            rw [if_pos rfl, received_of_unlisted rest distinct.1, List.append_nil]
          · obtain ⟨observer', objects?', seen', listed', got⟩ := ih distinct.2 later listed
            refine ⟨observer', objects?', seen', List.mem_cons_of_mem _ listed', ?_⟩
            have apart : other ≠ id := fun same =>
              distinct.1 (same ▸ List.mem_map_of_mem (f := (·.1)) listed)
            rw [if_neg apart, got]
            rfl

/-- What a request has the observers deliver. -/
def delivers (store : Store) : Request → List Delivery
  | .job job => (store.run job).2.1
  | .register subscription => (store.subscribe subscription).2.1
  | .cancel _ => []

/-- What several requests have the observers deliver. -/
def deliversAll (store : Store) : List Request → List Delivery
  | [] => []
  | request :: requests => store.delivers request ++ (store.serve request).deliversAll requests

-----------------------------------------------------------------------------------------
-- One request
-----------------------------------------------------------------------------------------

/-- An observer of results has seen the answer after a commit, and delivers it exactly where it is
another one than before. -/
theorem observe_results (exact : query.Exact) {sorting : Sorting} {changes : ChangeSet}
    {view : Context} {observer : Observer} {objects? : Option (List Object)}
    (seen : (Observer.results query current).observe sorting changes view = .ok (observer, objects?))
    : ∃ next,
        query.answer sorting view = .ok next
        ∧ observer = .results query next
        ∧ (objects? = none ∧ next = current ∨ objects? = some next ∧ next ≠ current) := by
  obtain ⟨next, answers, result⟩ := Mapping.attempt_bind_eq_ok_iff.mp seen
  have same := Object.AllExact.equal_iff next current (exact answers)
  refine ⟨next, answers, ?_⟩
  split at result
  · next equal =>
      cases result
      obtain rfl := same.mp equal
      exact ⟨rfl, Or.inl ⟨rfl, rfl⟩⟩
  · next differ =>
      cases result
      exact ⟨rfl, Or.inr ⟨rfl, fun equal => differ (same.mpr equal)⟩⟩

/-- Observers have different numbers, and all of them were given out. -/
structure Numbered (store : Store) : Prop where
  distinct : (store.observers.map (·.1)).Nodup
  given : ∀ number ∈ store.observers.map (·.1), number < store.nextSubscription

/-- The store with its worker keeps an observer of a query's results, which has seen what the query
answers. -/
structure Watches (store : Store) (id : Nat) (query : Query) (current : List Object) : Prop where
  running : store.running = true
  numbered : store.Numbered
  listed : (id, Observer.results query current) ∈ store.observers
  answers : query.answer store.sorting store.view = .ok current

/-- What follows a job that answers is the commit of what it has left. -/
theorem run_of_answer_eq {α : Type} {job : Job α} {answer : α} {after : Context}
    (running : store.running = true) (answers : job store.view = .ok (answer, after))
    : (store.run job).2 = Store.commit { store with nextId := after.nextId } after := by
  unfold Store.run
  rw [if_pos running, answers]

/-- A commit that is told to the observers puts what they have become in their place. -/
theorem commit_of_told (store : Store) {after : Context} (changed : ¬ after.changes.isEmpty = true)
    {observers : List (Nat × Observer)}
    (told
      : (notify store.sorting after.changes (.ofArena after.view store.schema store.nextId) store.observers).2
        = some observers)
    : store.commit after
      = ((notify store.sorting after.changes (.ofArena after.view store.schema store.nextId) store.observers).1,
          { store with
            records := after.view
            medium := store.medium.save { nextId := store.nextId, records := after.view }
            observers }) := by
  unfold commit
  rw [if_neg changed]
  dsimp only [view]
  cases outcome
    : notify store.sorting after.changes (.ofArena after.view store.schema store.nextId) store.observers with
  | mk deliveries left =>
      rw [outcome] at told
      cases told
      rfl

/-- Without observers there are no numbers. -/
theorem Numbered.of_unobserved (unobserved : store.observers = []) : store.Numbered := by
  refine ⟨?_, ?_⟩
  · rw [unobserved]
    exact List.nodup_nil
  · intro number listed
    rw [unobserved] at listed
    contradiction

/-- A commit keeps the numbers of observers. -/
theorem Numbered.commit (numbered : store.Numbered) (after : Context)
    : (store.commit after).2.Numbered := by
  dsimp only [Store.commit]
  split
  · exact numbered
  · split
    · next told =>
        have numbers := notify_numbers (congrArg Prod.snd told)
        refine ⟨?_, ?_⟩
        · rw [numbers]
          exact numbered.distinct
        · rw [numbers]
          exact numbered.given
    · exact .of_unobserved rfl

/-- A registration takes a number that no observer has. -/
theorem Numbered.subscribe (numbered : store.Numbered) (subscription : Subscription)
    : (store.subscribe subscription).2.2.Numbered := by
  have given : ∀ number ∈ store.observers.map (·.1), number < store.nextSubscription + 1 :=
    fun number listed => Nat.lt_succ_of_lt (numbered.given number listed)
  dsimp only [Store.subscribe]
  split
  · split
    · refine ⟨?_, ?_⟩
      · rw [List.map_append]
        refine List.Nodup.append numbered.distinct (List.nodup_singleton _) ?_
        intro number listed own
        obtain rfl := List.mem_singleton.mp own
        exact Nat.lt_irrefl _ (numbered.given _ listed)
      · intro number listed
        rw [List.map_append] at listed
        rcases List.mem_append.mp listed with older | own
        · exact given number older
        · obtain rfl := List.mem_singleton.mp own
          exact Nat.lt_succ_self _
    · exact .of_unobserved rfl
  · exact ⟨numbered.distinct, given⟩

/-- Every request keeps the numbers of observers apart. -/
theorem Numbered.serve (numbered : store.Numbered) (request : Request)
    : (store.serve request).Numbered := by
  cases request with
  | job job =>
      rw [Store.serve, Store.run]
      split
      · split
        · next answer after answers =>
            have moved : Numbered { store with nextId := after.nextId } :=
              ⟨numbered.distinct, numbered.given⟩
            exact moved.commit after
        · exact numbered
        · exact .of_unobserved rfl
      · exact numbered
  | register subscription => exact numbered.subscribe subscription
  | cancel id =>
      have part : (store.unsubscribe id).observers.Sublist store.observers := List.filter_sublist
      exact ⟨numbered.distinct.sublist (part.map _),
        fun number listed => numbered.given number ((part.map _).subset listed)⟩

/-- A subscription gets the next number. -/
theorem subscribe_number (store : Store) (subscription : Subscription)
    : (store.subscribe subscription).1 = store.nextSubscription := by
  dsimp only [subscribe]
  split
  · split <;> rfl
  · rfl

/-- An observer that starts is put behind the others under the next number. -/
theorem subscribe_of_starts (running : store.running = true) {subscription : Subscription}
    {observer : Observer} {objects? : Option (List Object)}
    (starts : subscription.start store.sorting store.view = .ok (observer, objects?))
    : store.subscribe subscription
      = (store.nextSubscription,
          (objects?.map (⟨store.nextSubscription, ·⟩)).toList,
          { store with
            nextSubscription := store.nextSubscription + 1
            observers := store.observers ++ [(store.nextSubscription, observer)] }) := by
  have starts' : subscription.start store.sorting
      (Store.view { store with nextSubscription := store.nextSubscription + 1 })
      = .ok (observer, objects?) := starts
  unfold subscribe
  dsimp only
  rw [if_pos running, starts']

/-- A request that the worker withstands keeps an observer that it does not cancel. Either the records stay,
and so does the observer, or it sees the commit of a job, is what it has become then, and delivers what it
has to.
Witness: only a commit changes the records, and each commit is shown to the observer.
-/
theorem serve_listed (running : store.running = true) (numbered : store.Numbered)
    {observer : Observer} (listed : (id, observer) ∈ store.observers) {request : Request}
    (withstands : store.Withstands request) (kept : request ≠ .cancel id)
    : ∃ observer' objects?,
        (id, observer') ∈ (store.serve request).observers
        ∧ received id (store.delivers request) = objects?.toList
        ∧ (observer' = observer
            ∧ objects? = none
            ∧ (∀ x, (store.serve request).view.record? x = store.view.record? x)
          ∨ ∃ (α : Type) (job : Job α) (answer : α) (after : Context),
              request = .job job
              ∧ job store.view = .ok (answer, after)
              ∧ (store.serve request).records = after.view
              ∧ observer.observe store.sorting after.changes (store.serve request).view
                = .ok (observer', objects?)) := by
  cases request with
  | job job =>
      cases outcome : job store.view with
      | error abort =>
          cases abort with
          | panic message =>
              have undone := run_of_panic running outcome
              rw [Store.serve, delivers, undone]
              exact ⟨observer, none, listed, rfl, Or.inl ⟨rfl, rfl, fun _ => rfl⟩⟩
          | endless => exact absurd outcome withstands.1
      | ok result =>
          obtain ⟨answer, after⟩ := result
          have committed := run_of_answer_eq running outcome
          by_cases unchanged : after.changes.isEmpty = true
          · rw [commit_of_unchanged unchanged] at committed
            rw [Store.serve, delivers, committed]
            exact ⟨observer, none, listed, rfl, Or.inl ⟨rfl, rfl, fun _ => rfl⟩⟩
          · have survives := (withstands.2 answer after outcome).resolve_left unchanged
            have heard := (notify_isSome_iff store.sorting after.changes (store.landing after) _).mpr
              survives
            obtain ⟨observers, told⟩ := Option.isSome_iff_exists.mp heard
            obtain ⟨observer', objects?, seen, listed, got⟩ :=
              notify_listed numbered.distinct told listed
            let moved : Store := { store with nextId := after.nextId }
            rw [moved.commit_of_told unchanged told] at committed
            rw [Store.serve, delivers, committed]
            exact ⟨observer', objects?, listed, got,
              Or.inr ⟨_, job, answer, after, rfl, outcome, rfl, seen⟩⟩
  | register subscription =>
      obtain ⟨⟨first, objects?⟩, starts⟩ := (subscription.start_isOk_iff store.sorting store.view).mpr withstands
      have registered := subscribe_of_starts running starts
      have other : store.nextSubscription ≠ id := by
        have := numbered.given id (List.mem_map_of_mem (f := (·.1)) listed)
        omega
      rw [Store.serve, delivers, registered, received_own, if_neg other]
      refine ⟨observer, none, List.mem_append_left _ listed, rfl, Or.inl ⟨rfl, rfl, fun _ => rfl⟩⟩
  | cancel other =>
      have apart : id ≠ other := fun same => kept (same ▸ rfl)
      refine ⟨observer, none, ?_, rfl, Or.inl ⟨rfl, rfl, fun _ => rfl⟩⟩
      exact List.mem_filter.mpr ⟨listed, decide_eq_true apart⟩

/-- A request that the worker withstands leaves the observer with the answer of then. It is delivered
exactly where it is another one than before.
-/
theorem Watches.serve (exact : query.Exact) (watches : store.Watches id query current)
    {request : Request} (withstands : store.Withstands request) (kept : request ≠ .cancel id)
    : ∃ next,
        (store.serve request).Watches id query next
        ∧ (received id (store.delivers request) = [] ∧ next = current
          ∨ received id (store.delivers request) = [next] ∧ next ≠ current) := by
  have running := (serve_running_iff watches.running request).mpr withstands
  have numbered := watches.numbered.serve request
  obtain ⟨observer, objects?, listed, got, ⟨rfl, rfl, same⟩ | ⟨_, _, _, _, _, _, _, seen⟩⟩ :=
    serve_listed watches.running watches.numbered watches.listed withstands kept
  · have answers := (query.answer_congr store.sorting same).trans watches.answers
    rw [← store.serve_sorting request] at answers
    exact ⟨current, ⟨running, numbered, listed, answers⟩, Or.inl ⟨got, rfl⟩⟩
  · obtain ⟨next, answers, rfl, change⟩ := observe_results exact seen
    rw [← store.serve_sorting] at answers
    refine ⟨next, ⟨running, numbered, listed, answers⟩, ?_⟩
    rcases change with ⟨rfl, same⟩ | ⟨rfl, differ⟩
    · exact Or.inl ⟨got, same⟩
    · exact Or.inr ⟨got, differ⟩

-----------------------------------------------------------------------------------------
-- Any requests
-----------------------------------------------------------------------------------------

/-- From the store on that has registered a subscriber, the requests keep the subscriber informed about a
query's results: the last ones that were delivered, or those at the registration, are what the query
answers. What is delivered is what the query answers right after the request that has caused it, and no
two deliveries in a row are the same.
-/
structure Informs (store : Store) (query : Query) (id : Nat) (initial : List Object)
    (requests : List Request)
    : Prop where
  latest
    : let delivered := received id (store.deliversAll requests)
      ((store.serveAll requests).execute query).1 = .ok (delivered.getLastD initial)
  immediate
    : ∀ {before request later objects},
        requests = before ++ request :: later
        → objects ∈ received id ((store.serveAll before).delivers request)
        → ((store.serveAll (before ++ [request])).execute query).1 = .ok objects
  changing : List.IsChain (· ≠ ·) (initial :: received id (store.deliversAll requests))

/-- Requests that the worker withstands keep a subscriber informed as long as it is not cancelled.
Witness: induction on the requests; each leaves the observer with the answer of then.
-/
theorem Watches.informs (exact : query.Exact) (watches : store.Watches id query current)
    {requests : List Request} (withstands : store.WithstandsAll requests)
    (kept : .cancel id ∉ requests)
    : store.Informs query id current requests := by
  induction requests generalizing store current with
  | nil =>
      refine ⟨?_, ?_, List.IsChain.singleton _⟩
      · exact congrArg Prod.fst (execute_of_answers watches.running watches.answers)
      · intro before request later objects split
        cases before <;> cases split
  | cons request requests ih =>
      rw [List.mem_cons, not_or] at kept
      obtain ⟨next, watches', told⟩ := watches.serve exact withstands.1 (Ne.symm kept.1)
      have rest := ih watches' withstands.2 kept.2
      have answered := execute_of_answers watches'.running watches'.answers
      have all : received id (store.deliversAll (request :: requests))
          = received id (store.delivers request)
            ++ received id ((store.serve request).deliversAll requests) := received_append _ _ _
      refine ⟨?_, ?_, ?_⟩
      · rw [all]
        refine rest.latest.trans (congrArg Except.ok ?_)
        rcases told with ⟨nothing, rfl⟩ | ⟨once, _⟩
        · rw [nothing, List.nil_append]
        · rw [once, List.singleton_append, List.getLastD_cons]
      · intro before request' later objects split listed
        cases before with
        | nil =>
            cases split
            have same : objects = next := by
              rcases told with ⟨nothing, _⟩ | ⟨once, _⟩
              · rw [serveAll, List.foldl_nil, nothing] at listed
                contradiction
              · rw [serveAll, List.foldl_nil, once] at listed
                exact List.mem_singleton.mp listed
            exact same ▸ congrArg Prod.fst answered
        | cons first before =>
            cases split
            exact rest.immediate rfl listed
      · rw [all]
        rcases told with ⟨nothing, rfl⟩ | ⟨once, differ⟩
        · rw [nothing]
          exact rest.changing
        · rw [once]
          exact .cons_cons (Ne.symm differ) rest.changing

/-- The worker withstands requests where it withstands the first of them and then the others. -/
theorem withstandsAll_append {first second : List Request}
    : store.WithstandsAll (first ++ second)
      ↔ store.WithstandsAll first ∧ (store.serveAll first).WithstandsAll second := by
  induction first generalizing store with
  | nil => exact (and_iff_right trivial).symm
  | cons request first ih =>
      rw [List.cons_append, WithstandsAll, WithstandsAll, ih, and_assoc]
      rfl

/-- Any requests keep the numbers of observers apart. -/
theorem Numbered.serveAll (numbered : store.Numbered) (requests : List Request)
    : (store.serveAll requests).Numbered := by
  induction requests generalizing store with
  | nil => exact numbered
  | cons request requests ih => exact ih (numbered.serve request)

/-- A registration that the worker withstands starts with the answer, and a stream delivers it at once. -/
theorem watches_of_register (running : store.running = true) (numbered : store.Numbered)
    {stream : Bool} (withstands : store.Withstands (.register (.results query stream)))
    : ∃ initial,
        query.answer store.sorting store.view = .ok initial
        ∧ (store.serve (.register (.results query stream))).Watches store.nextSubscription query
            initial
        ∧ received store.nextSubscription (store.delivers (.register (.results query stream)))
          = if stream then [initial] else [] := by
  let subscription : Subscription := .results query stream
  obtain ⟨⟨observer, objects?⟩, starts⟩ := (subscription.start_isOk_iff store.sorting store.view).mpr withstands
  obtain ⟨initial, answers, same⟩ := Mapping.attempt_bind_eq_ok_iff.mp starts
  cases same
  have registered := subscribe_of_starts running starts
  refine ⟨initial, answers, ⟨?_, ?_, ?_, ?_⟩, ?_⟩
  · exact (serve_running_iff running _).mpr withstands
  · exact numbered.serve _
  · rw [serve, registered]
    exact List.mem_append_right _ List.mem_cons_self
  · rw [serve, registered]
    exact answers
  · rw [delivers, registered, received_own, if_pos rfl]
    cases stream <;> rfl

end Store

/-- A subscriber to the results of a query for a type without floating point numbers never misses or
repeats a state. Whatever jobs, registrations and cancellations a store without observers has served, and
whatever it serves after the registration, as long as its worker withstands them: the subscriber starts
with what the query answers, which a stream delivers at once, and is kept informed until it is cancelled.
Witness: the observer has always seen the current answer.
-/
theorem results_subscriber {store : Store} (running : store.running = true)
    (unobserved : store.observers = []) (service : Service) {type : EntityType}
    (known : type ∈ service.model.entities) (exact : type.Exact) {query : Query}
    (asked : query.model = service.model) (named : query.entity = type.name) (stream : Bool)
    (earlier later : List Store.Request)
    (withstands : store.WithstandsAll (earlier ++ .register (.results query stream) :: later))
    : let before := store.serveAll earlier
      let id := (before.subscribe (.results query stream)).1
      ∃ initial,
        (before.execute query).1 = .ok initial
        ∧ Store.received id (before.delivers (.register (.results query stream)))
          = (if stream then [initial] else [])
        ∧ ∀ requests,
            requests <+: later
            → .cancel id ∉ requests
            → (before.serve (.register (.results query stream))).Informs query id initial
                requests := by
  intro before id
  obtain ⟨first, register, rest⟩ := Store.withstandsAll_append.mp withstands
  have lawful : query.model.Lawful Service.types := asked ▸ service.lawful
  have entity : query.model.entity query.entity = type := by
    rw [asked, named, service.lawful.named type known]
  have exact' : query.Exact := by
    refine Query.exact_of_known lawful ?_ (entity ▸ exact)
    rw [Model.Knows, entity, asked]
    exact known
  have running' : before.running = true := (Store.serveAll_running_iff running earlier).mpr first
  have numbered : before.Numbered := (Store.Numbered.of_unobserved unobserved).serveAll earlier
  have number : id = before.nextSubscription := before.subscribe_number _
  obtain ⟨initial, answers, watches, delivered⟩ :=
    Store.watches_of_register running' numbered register
  rw [number]
  refine ⟨initial, congrArg Prod.fst (Store.execute_of_answers running' answers), delivered, ?_⟩
  intro requests part kept
  obtain ⟨others, rfl⟩ := part
  exact watches.informs exact' (Store.withstandsAll_append.mp rest).1 kept

/-- All types of the services but that of animals are without floating point numbers. -/
example (service : Service)
    : ∀ type ∈ service.model.entities, type.Exact ↔ type ≠ Zoo.animal := by
  cases service <;> decide

/-- A book is catalogued under the next identifier. -/
private def cataloguing (id : ObjectId) (pages : Int64) : Job Unit :=
  Job.perform
    [.insert Library.book.name, .setValue id "pages" (some (.integer pages)),
      .setValue id "format" (some (.string "ebook"))]

/-- Jobs, a registration and a cancellation beside a subscriber. -/
private def visits : List Store.Request :=
  [.job (cataloguing ⟨1⟩ 300),
    .job (cataloguing ⟨2⟩ 20),
    .register (.updates (Library.longBooks 0)),
    .job (Job.panic none : Job Unit),
    .job (Job.perform [.setValue ⟨1⟩ "title" (some (.string "Silence"))]),
    .cancel 1,
    .job (Job.perform [.delete ⟨1⟩])]

/-- A stream of long books, which somebody else watches already, tells that there are none, then the first
one, its title, and that it is gone.
-/
theorem longBooks_subscriber
    : let store := Store.opened Library.model.schema
      let query := Library.longBooks 100
      let earlier : List Store.Request := [.register (.results query false)]
      let before := store.serveAll earlier
      let id := (before.subscribe (.results query true)).1
      store.WithstandsAll (earlier ++ .register (.results query true) :: visits)
      ∧ (∃ initial,
          (before.execute query).1 = .ok initial
          ∧ Store.received id (before.delivers (.register (.results query true)))
            = (if true then [initial] else [])
          ∧ ∀ requests,
              requests <+: visits
              → .cancel id ∉ requests
              → (before.serve (.register (.results query true))).Informs query id initial requests)
      ∧ (Store.received id
          (before.deliversAll (.register (.results query true) :: visits))).map List.length
        = [0, 1, 1, 0] := by
  intro store query earlier before id
  have running : store.running = true := rfl
  have known : Library.book ∈ Service.library.model.entities := by decide
  have withstands
      : store.WithstandsAll (earlier ++ .register (.results query true) :: visits) :=
    (Store.serveAll_running_iff running _).mp (by decide +kernel)
  refine ⟨withstands, ?_, by decide +kernel⟩
  exact results_subscriber running rfl .library known (by decide) rfl rfl true earlier visits withstands

end EntityStore
