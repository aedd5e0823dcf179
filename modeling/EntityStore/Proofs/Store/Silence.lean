import EntityStore.Proofs.Object.Reflexive
import EntityStore.Proofs.Query.Locality
import EntityStore.Proofs.Store.Results

/-! What a subscriber to results is told of a commit that has nothing to do with its query.
Such a commit leaves the answer as it is. An observer compares the answer with the last one it has seen by
the equality of objects, where an object that holds a number without a value differs from itself: whoever
watches such an object is told the same answer again and again, and everybody else is told nothing.
-/

namespace EntityStore

namespace Store

variable {α : Type} {store : Store} {query : Query} {id : Nat} {current : List Object}

-----------------------------------------------------------------------------------------
-- An observer that follows the answers
-----------------------------------------------------------------------------------------

/-- The store with its worker keeps an observer of a query's results. What it has seen last is what the
query answers, or equals it.
-/
structure Follows (store : Store) (id : Nat) (query : Query) (current : List Object) : Prop where
  running : store.running = true
  numbered : store.Numbered
  listed
    : ∃ last,
        (id, Observer.results query last) ∈ store.observers
        ∧ (last = current ∨ Object.allEqual current last = true)
  answers : query.answer store.sorting store.view = .ok current

/-- What an observer does with a commit after which the query answers. -/
theorem observe_of_answers {sorting : Sorting} (changes : ChangeSet) {view : Context}
    (last : List Object) (answers : query.answer sorting view = .ok current)
    : (Observer.results query last).observe sorting changes view
      = .ok (if Object.allEqual current last then (.results query last, none)
          else (.results query current, some current)) := by
  refine Mapping.attempt_bind_eq_ok_iff.mpr ⟨current, answers, ?_⟩
  split <;> rfl

/-- A request that the worker withstands leaves the observer with the answer of then. -/
theorem Follows.serve (follows : store.Follows id query current) {request : Request}
    (withstands : store.Withstands request) (kept : request ≠ .cancel id)
    : ∃ next, (store.serve request).Follows id query next := by
  have running := (serve_running_iff follows.running request).mpr withstands
  have numbered := follows.numbered.serve request
  obtain ⟨last, listed, equal⟩ := follows.listed
  obtain ⟨observer, objects?, listed, _, ⟨rfl, _, same⟩ | ⟨_, _, _, _, _, _, _, seen⟩⟩ :=
    serve_listed follows.running follows.numbered listed withstands kept
  · have answers := (query.answer_congr store.sorting same).trans follows.answers
    rw [← store.serve_sorting request] at answers
    exact ⟨current, running, numbered, ⟨last, listed, equal⟩, answers⟩
  · obtain ⟨next, answers, _⟩ := Mapping.attempt_bind_eq_ok_iff.mp seen
    refine ⟨next, running, numbered, ?_, (store.serve_sorting _).symm ▸ answers⟩
    rw [observe_of_answers _ _ answers] at seen
    split at seen
    · next equal =>
        cases seen
        exact ⟨last, listed, Or.inr equal⟩
    · cases seen
      exact ⟨next, listed, Or.inl rfl⟩

/-- Any requests that the worker withstands leave the observer with the answer of then, unless they cancel
it.
-/
theorem Follows.serveAll (follows : store.Follows id query current) {requests : List Request}
    (withstands : store.WithstandsAll requests) (kept : .cancel id ∉ requests)
    : ∃ next, (store.serveAll requests).Follows id query next := by
  induction requests generalizing store current with
  | nil => exact ⟨current, follows⟩
  | cons request requests ih =>
      rw [List.mem_cons, not_or] at kept
      obtain ⟨next, follows'⟩ := follows.serve withstands.1 (Ne.symm kept.1)
      exact ih follows' withstands.2 kept.2

-----------------------------------------------------------------------------------------
-- A commit that has nothing to do with the query
-----------------------------------------------------------------------------------------

/-- An observer that copes with a commit delivers what it has to, unless an observer before it gives up. -/
theorem received_of_observe {sorting : Sorting} {changes : ChangeSet} {view : Context}
    {observers : List (Nat × Observer)} {observer observer' : Observer}
    {objects? : Option (List Object)} (distinct : (observers.map (·.1)).Nodup)
    (listed : (id, observer) ∈ observers)
    (seen : observer.observe sorting changes view = .ok (observer', objects?))
    : received id (notify sorting changes view observers).1 = []
      ∨ received id (notify sorting changes view observers).1 = objects?.toList := by
  induction observers with
  | nil => contradiction
  | cons head rest ih =>
      obtain ⟨other, first⟩ := head
      rw [List.map_cons, List.nodup_cons] at distinct
      rw [notify]
      cases own : first.observe sorting changes view with
      | error abort => exact Or.inl rfl
      | ok result =>
          dsimp only
          rw [received_append, received_own]
          rcases List.mem_cons.mp listed with same | listed
          · cases same
            cases own.symm.trans seen
            rw [if_pos rfl, received_of_unlisted rest distinct.1, List.append_nil]
            exact Or.inr rfl
          · have apart : other ≠ id := fun same =>
              distinct.1 (same ▸ List.mem_map_of_mem (f := (·.1)) listed)
            rw [if_neg apart]
            exact ih distinct.2 listed

/-- A job that changes something has its commit shown to the observers. -/
theorem delivers_of_changed {job : Job α} {answer : α} {after : Context}
    (running : store.running = true) (answers : job store.view = .ok (answer, after))
    (changed : after.changes.isEmpty = false)
    : store.delivers (.job job)
      = (notify store.sorting after.changes (store.landing after) store.observers).1 := by
  rw [delivers, run_of_answer_eq running answers]
  unfold commit
  rw [if_neg (Bool.eq_false_iff.mp changed)]
  dsimp only
  split
  · next told => exact (congrArg Prod.fst told).symm
  · next told => exact (congrArg Prod.fst told).symm

/-- The observer is told the same answer again where there is a number without a value in it, and nothing
otherwise.
Witness: the query answers the same, and an answer without such numbers equals itself.
-/
theorem Follows.unrelated (follows : store.Follows id query current) {job : Job α} {answer : α}
    {after : Context} (answers : job store.view = .ok (answer, after))
    (changed : after.changes.isEmpty = false)
    (unrelated : Unrelated query.entityName store.view.record? after.record?)
    : query.answer store.sorting (store.landing after) = .ok current
      ∧ (received id (store.delivers (.job job)) = []
        ∨ received id (store.delivers (.job job)) = [current])
      ∧ (Object.anyHoldsNaN current = false → received id (store.delivers (.job job)) = [])
      ∧ (store.Withstands (.job job)
        → Object.anyHoldsNaN current = true
        → received id (store.delivers (.job job)) = [current]) := by
  obtain ⟨last, listed, equal⟩ := follows.listed
  have lands : (store.landing after).record? = after.record? := funext after.get?_view
  have same : query.answer store.sorting (store.landing after) = .ok current :=
    Query.answer_local (lands ▸ unrelated) follows.answers
  have seen := observe_of_answers after.changes last same
  have told := delivers_of_changed follows.running answers changed
  have repeats : Object.allEqual current last = !Object.anyHoldsNaN current := by
    cases holds : Object.anyHoldsNaN current with
    | false =>
        rcases equal with rfl | equal
        · rw [Object.allEqual_self, holds]
        · exact equal
    | true =>
        refine Bool.eq_false_iff.mpr (fun equal => ?_)
        rw [Object.anyHoldsNaN_of_equal current last equal] at holds
        cases holds
  rw [repeats] at seen
  refine ⟨same, ?_⟩
  rw [told]
  have heard := received_of_observe follows.numbered.distinct listed seen
  cases holds : Object.anyHoldsNaN current with
  | false =>
      rw [holds] at heard
      have nothing := heard.elim (fun nothing => nothing) (fun nothing => nothing)
      exact ⟨Or.inl nothing, fun _ => nothing, fun _ again => Bool.noConfusion again⟩
  | true =>
      rw [holds] at heard seen
      refine ⟨heard, fun never => Bool.noConfusion never, fun withstands _ => ?_⟩
      have survives := (withstands.2 answer after answers).resolve_left (Bool.eq_false_iff.mp changed)
      have copes := (notify_isSome_iff store.sorting after.changes (store.landing after) _).mpr survives
      obtain ⟨observers, left⟩ := Option.isSome_iff_exists.mp copes
      obtain ⟨_, _, seen', _, got⟩ := notify_listed follows.numbered.distinct left listed
      cases seen.symm.trans seen'
      exact got

end Store

/-- A commit that has nothing to do with an entity is silent for whoever watches results of it, unless the
results hold a number without a value. Whatever jobs, registrations and cancellations a store without
observers has served, as long as its worker withstands them and they leave the subscription alone, a commit
that changes no record which a record of the entity reaches, before or after it, leaves the answer as it
is. The subscriber is told nothing or the same answer again: nothing where no object of the answer holds
such a number, as with every type that has no floating point numbers, and the same answer where one does
and the commit is withstood.
Witness: the observer has always seen the current answer last, or one that equals it.
-/
theorem unrelated_commit {store : Store} (running : store.running = true)
    (unobserved : store.observers = []) (service : Service) {type : EntityType}
    (known : type ∈ service.model.entities) {query : Query} (asked : query.model = service.model)
    (named : query.entity = type.name) (stream : Bool) (earlier later : List Store.Request)
    (withstands : store.WithstandsAll (earlier ++ .register (.results query stream) :: later))
    : let id := ((store.serveAll earlier).subscribe (.results query stream)).1
      let now := store.serveAll (earlier ++ .register (.results query stream) :: later)
      .cancel id ∉ later
      → ∀ {α : Type} (job : Job α) (answer : α) (after : Context),
          job now.view = .ok (answer, after)
          → after.changes.isEmpty = false
          → Unrelated type.name now.view.record? after.record?
          → ∃ current,
              (now.execute query).1 = .ok current
              ∧ query.answer now.sorting (now.landing after) = .ok current
              ∧ let told := Store.received id (now.delivers (.job job))
                (told = [] ∨ told = [current])
                ∧ (type.Exact → told = [])
                ∧ (Object.anyHoldsNaN current = false → told = [])
                ∧ (now.Withstands (.job job)
                  → Object.anyHoldsNaN current = true
                  → told = [current]) := by
  intro id now kept α job answer after answers changed unrelated
  let before := store.serveAll earlier
  have lawful : query.model.Lawful Service.types := asked ▸ service.lawful
  have entity : query.model.entity query.entity = type := by
    rw [asked, named, service.lawful.named type known]
  obtain ⟨first, register, rest⟩ := Store.withstandsAll_append.mp withstands
  have running' : before.running = true := (Store.serveAll_running_iff running earlier).mpr first
  have numbered : before.Numbered := (Store.Numbered.of_unobserved unobserved).serveAll earlier
  have number : id = before.nextSubscription := before.subscribe_number _
  obtain ⟨initial, _, watches, _⟩ := Store.watches_of_register running' numbered register
  rw [← number] at watches
  have start : (before.serve (.register (.results query stream))).Follows id query initial :=
    ⟨watches.running, watches.numbered, ⟨initial, watches.listed, Or.inl rfl⟩, watches.answers⟩
  obtain ⟨current, follows⟩ := start.serveAll rest kept
  have split : now = (before.serve (.register (.results query stream))).serveAll later :=
    List.foldl_append
  rw [← split] at follows
  have typed : query.entityName = type.name := congrArg EntityType.name entity
  obtain ⟨same, either, silent, again⟩ := follows.unrelated answers changed (typed ▸ unrelated)
  refine ⟨current, congrArg Prod.fst (Store.execute_of_answers follows.running follows.answers), same, either,
    fun exact => silent ?_, silent, again⟩
  have knows : query.model.Knows query.entity := by
    rw [Model.Knows, entity, asked]
    exact known
  have plain := Query.exact_of_known lawful knows (entity ▸ exact) follows.answers
  exact Object.anyHoldsNaN_of_equal current current ((Object.AllExact.equal_iff current current plain).mpr rfl)

/-- An identifier that no record of the context refers to, and that is not one of the entity. -/
private def Context.spares (context : Context) (entity : String) (id : ObjectId) : Bool :=
  context.live.all (fun record => !record.references id)
    && (context.record? id).all (fun record => record.entity ≠ entity)

private theorem Context.not_concerns_of_spares {context : Context} {entity : String} {id : ObjectId}
    (spares : context.spares entity id = true)
    : ¬ Concerns context.record? entity id := by
  obtain ⟨unheld, typed⟩ := Bool.and_eq_true_iff.mp spares
  refine Unheld.not_concerns (fun owner link => ?_) (fun record found => ?_)
  · obtain ⟨key, record, found, inside⟩ := link
    have refers : record.references id = true := Record.references_iff.mpr ⟨key, inside⟩
    have never := List.all_eq_true.mp unheld record (mem_live_iff.mpr ⟨owner, found⟩)
    rw [refers] at never
    cases never
  · rw [found] at typed
    exact of_decide_eq_true typed

/-- A job that has written only what has nothing to do with an entity leaves the rest as it is. -/
private theorem Context.unrelated_of_pending {before after : Context} {entity : String}
    (committed : after.committed = before.view)
    (spares
      : after.pending.entries.all (fun entry =>
          before.spares entity entry.1 && after.spares entity entry.1) = true)
    : Unrelated entity before.record? after.record? := by
  intro id differ
  cases pending : after.pending.get? id with
  | none =>
      have same : after.record? id = before.record? id := by
        rw [record?, pending, committed, get?_view]
      exact absurd same.symm differ
  | some written =>
      have both := List.all_eq_true.mp spares _ (Table.get?_eq_some_iff.mp pending)
      obtain ⟨first, second⟩ := Bool.and_eq_true_iff.mp both
      exact ⟨not_concerns_of_spares first, not_concerns_of_spares second⟩

/-- The query for all animals. -/
private def animals : Query :=
  .ofTerms Zoo.model Zoo.animal.name [] []

/-- The animals of a zoo are watched, and then an animal of some weight comes. -/
private def watchedZoo (weight : Number.Single) : List Store.Request :=
  [.register (.results animals false),
    .job (Object.upsert Zoo.model Zoo.animal [Zoo.animalOf "a" weight []])]

/-- A keeper is hired. -/
private def hiring : Job Unit :=
  Job.perform [.insert Zoo.keeper.name, .setValue ⟨3⟩ "badge" (some (.string "k"))]

/-- Hiring a keeper changes something, but nothing that has to do with animals. -/
private def Context.hires (context : Context) : Bool :=
  match hiring context with
  | .ok ((), after) =>
      !after.changes.isEmpty
        && after.committed = context.view
        && after.pending.entries.all (fun entry =>
            context.spares Zoo.animal.name entry.1 && after.spares Zoo.animal.name entry.1)
  | .error _ => false

private theorem Context.unrelated_of_hires {context : Context} (fits : context.hires = true)
    : ∃ after,
        hiring context = .ok ((), after)
        ∧ after.changes.isEmpty = false
        ∧ Unrelated Zoo.animal.name context.record? after.record? := by
  unfold hires at fits
  split at fits
  · next after answers =>
      rw [Bool.and_eq_true, Bool.and_eq_true] at fits
      obtain ⟨⟨changed, committed⟩, spares⟩ := fits
      refine ⟨after, answers, by simpa using changed, ?_⟩
      exact unrelated_of_pending (of_decide_eq_true committed) spares
  · cases fits

/-- Whoever watches an animal that weighs something is told nothing when a keeper is hired. -/
theorem hiring_silent
    : let store := Store.opened Zoo.model.schema
      let now := store.serveAll (watchedZoo ⟨0x3f800000⟩)
      ∃ after current,
        hiring now.view = .ok ((), after)
        ∧ after.changes.isEmpty = false
        ∧ Unrelated Zoo.animal.name now.view.record? after.record?
        ∧ (now.execute animals).1 = .ok current
        ∧ current.length = 1
        ∧ animals.answer now.sorting (now.landing after) = .ok current
        ∧ Store.received 1 (now.delivers (.job hiring)) = [] := by
  intro store now
  have running : store.running = true := rfl
  have known : Zoo.animal ∈ Service.zoo.model.entities := by decide
  have asked : animals.model = Service.zoo.model := rfl
  have withstands : store.WithstandsAll (watchedZoo ⟨0x3f800000⟩) :=
    (Store.serveAll_running_iff running _).mp (by decide +kernel)
  have hires : now.view.hires = true := by decide +kernel
  obtain ⟨after, answers, changed, unrelated⟩ := Context.unrelated_of_hires hires
  obtain ⟨current, fetched, same, _, _, silent, _⟩ :=
    unrelated_commit running rfl .zoo known asked rfl false [] _ withstands
      (fun listed => by cases List.mem_singleton.mp listed) hiring () after answers changed unrelated
  have plain : ((now.execute animals).1.toOption.map (fun objects =>
      (objects.length, Object.anyHoldsNaN objects))) = some (1, false) := by
    decide +kernel
  have fetched : (now.execute animals).1 = .ok current := fetched
  rw [fetched] at plain
  obtain ⟨one, numbers⟩ := Prod.mk.inj (Option.some.inj plain)
  exact ⟨after, current, answers, changed, unrelated, fetched, one, same, silent numbers⟩

/-- Whoever watches an animal whose weight is no number is told of the animal again when a keeper is hired,
which changes nothing that has to do with animals.
-/
theorem hiring_told
    : let store := Store.opened Zoo.model.schema
      let now := store.serveAll (watchedZoo ⟨0x7fc00000⟩)
      store.WithstandsAll (watchedZoo ⟨0x7fc00000⟩)
      ∧ (∃ after,
          hiring now.view = .ok ((), after)
          ∧ after.changes.isEmpty = false
          ∧ Unrelated Zoo.animal.name now.view.record? after.record?)
      ∧ (Store.received 1 (now.delivers (.job hiring))).map List.length = [1] := by
  intro store now
  have withstands : store.WithstandsAll (watchedZoo ⟨0x7fc00000⟩) :=
    (Store.serveAll_running_iff rfl _).mp (by decide +kernel)
  exact ⟨withstands, Context.unrelated_of_hires (by decide +kernel), by decide +kernel⟩

end EntityStore
