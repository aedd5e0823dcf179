import EntityStore.Proofs.Context.Numbering
import EntityStore.Proofs.Store.Reopening

/-! Identifiers over the whole life of a store.
The next identifier is given out in memory, also by jobs that commit nothing, but it is written to the
file with the records only. So the two may differ when the store is opened again, and what is given out
then may have been given out before. What was committed lies below the next identifier of the file all
along, so it is not.
-/

namespace EntityStore

namespace Store

variable {store later : Store} {durable : Prop} {floor : Nat}

-----------------------------------------------------------------------------------------
-- Events
-----------------------------------------------------------------------------------------

/-- What happens to a store: a request is served, or the store is closed and opened again under some
schema. -/
inductive Event : Type 1 where
  | serve (request : Request)
  | reopen (schema : Schema)

/-- What is written by the event is written by operations. -/
def Event.Operates : Event → Prop
  | serve request => request.Operates
  | reopen _ => True

/-- The store after an event, unless it does not open. -/
def undergo (store : Store) : Event → Except StoreError Store
  | .serve request => .ok (store.serve request)
  | .reopen schema => openOn store.sorting schema store.medium

/-- The store after several events, unless it does not open in between. -/
def undergoAll (store : Store) (events : List Event) : Except StoreError Store :=
  events.foldlM undergo store

/-- Events happen after others to the store that the others have left. -/
theorem undergoAll_append {events others : List Event}
    (done : store.undergoAll (events ++ others) = .ok later)
    : ∃ middle, store.undergoAll events = .ok middle ∧ middle.undergoAll others = .ok later := by
  unfold undergoAll at done
  rw [List.foldlM_append] at done
  cases first : events.foldlM undergo store with
  | error _ =>
      rw [first] at done
      contradiction
  | ok middle =>
      rw [first] at done
      exact ⟨middle, first, done⟩

-----------------------------------------------------------------------------------------
-- What was committed so far
-----------------------------------------------------------------------------------------

/-- Everything that was ever committed lies below a floor, which the store gives out nothing below, now or
when it is opened again. A store that is opened again finds what was committed last. -/
structure Floored (durable : Prop) (floor : Nat) (store : Store) : Prop where
  numbered : store.records.Numbered floor
  least : floor ≤ store.nextId.toNat
  file : durable → ∃ content, store.medium = .file content
  kept
    : durable
      → ∀ snapshot,
          store.medium.load = .ok snapshot
          → floor ≤ snapshot.nextId.toNat ∧ snapshot.records.entity? = store.records.entity?

/-- Whatever stands below a floor in the later store stood there before, and was of the same entity type. -/
def Descends (floor : Nat) (before after : Store) : Prop :=
  ∀ id entity,
    id.rank < floor
    → after.records.entity? id = some entity
    → before.records.entity? id = some entity

/-- The store continues one that has a floor: there is a floor still, no lower than before, and nothing
new below the one before. -/
def Continues (durable : Prop) (floor : Nat) (before after : Store) : Prop :=
  ∃ raised ≥ floor, Floored durable raised after ∧ Descends floor before after

theorem Continues.refl (floored : Floored durable floor store) : Continues durable floor store store :=
  ⟨floor, Nat.le_refl _, floored, fun _ _ _ found => found⟩

/-- What leaves the records and the file alone, and takes no identifiers back, continues the store. -/
theorem Continues.congr (floored : Floored durable floor store) (records : later.records = store.records)
    (medium : later.medium = store.medium) (least : floor ≤ later.nextId.toNat)
    : Continues durable floor store later := by
  refine ⟨floor, Nat.le_refl _, ⟨?_, least, ?_, ?_⟩, ?_⟩
  · exact records ▸ floored.numbered
  · exact medium ▸ floored.file
  · rw [medium, records]
    exact floored.kept
  · unfold Descends
    rw [records]
    exact fun _ _ _ found => found

-----------------------------------------------------------------------------------------
-- One event
-----------------------------------------------------------------------------------------

/-- The records of a store lie below its next identifier. -/
theorem Floored.given (floored : Floored durable floor store)
    : store.records.Numbered store.nextId.toNat :=
  ⟨floored.numbered.keyed,
    fun found => Nat.lt_of_lt_of_le (floored.numbered.bounded found) floored.least⟩

/-- Operations of a job on the records of a store keep to the identifiers. -/
theorem Floored.issued (floored : Floored durable floor store) {operations : List Operation}
    {context : Context} (performed : store.view.performAll operations = .ok context)
    : Issued store.records store.nextId.toNat context :=
  (Issued.ofArena floored.given store.schema).performAll floored.given performed

/-- Keeping a snapshot on a file leaves a file that its next identifier and its entity types are read of, if
anything is. -/
theorem load_of_save {medium : Medium} {content : Option String} (file : medium = .file content)
    {snapshot other : Snapshot} (keyed : Keyed snapshot.records.get?)
    (loaded : (medium.save snapshot).load = .ok other)
    : other.nextId = snapshot.nextId ∧ other.records.entity? = snapshot.records.entity? := by
  have text : (medium.save snapshot) = .file (some snapshot.text) := by
    rw [file, Medium.save]
  have found := load_file_iff.mp (text ▸ loaded)
  exact ⟨Snapshot.nextId_of_read? found, Snapshot.entity?_of_read? keyed found⟩

/-- A commit of what operations have left raises the floor to the next identifier.
Witness: what the job sees lies below it, and what lies below the next identifier from before the job was
committed.
-/
theorem Continues.committed (floored : Floored durable floor store) {after : Context}
    (issued : Issued store.records store.nextId.toNat after) (committed : store.Committed after later)
    : Continues durable floor store later := by
  obtain ⟨records, medium, nextId⟩ := committed
  have least : floor ≤ later.nextId.toNat := nextId ▸ Nat.le_trans floored.least issued.least
  by_cases unchanged : after.changes.isEmpty = true
  · rw [if_pos unchanged] at records medium
    exact .congr floored records medium least
  · rw [if_neg unchanged] at records medium
    have numbered : after.view.Numbered after.nextId.toNat :=
      ⟨fun found => issued.keyed (after.get?_view _ ▸ found),
        fun found => issued.bounded (after.get?_view _ ▸ found)⟩
    refine ⟨after.nextId.toNat, nextId ▸ least, ⟨records ▸ numbered, by rw [nextId], ?_, ?_⟩, ?_⟩
    · intro lasts
      obtain ⟨content, file⟩ := floored.file lasts
      rw [medium, file]
      exact ⟨_, rfl⟩
    · intro lasts snapshot loaded
      obtain ⟨content, file⟩ := floored.file lasts
      rw [medium] at loaded
      obtain ⟨next, types⟩ := load_of_save file numbered.keyed loaded
      rw [next, types, records]
      exact ⟨Nat.le_refl _, rfl⟩
    · intro id entity below found
      rw [records, Arena.entity?, after.get?_view, Option.map_eq_some_iff] at found
      obtain ⟨record, found, rfl⟩ := found
      exact issued.known found (Nat.lt_of_lt_of_le below floored.least)

/-- A job continues the store, whether it is committed, changes nothing or gives up. -/
theorem Continues.run {α : Type} (floored : Floored durable floor store) {job : Job α}
    (operates : job.Operates)
    : Continues durable floor store (store.run job).2.2 := by
  by_cases running : store.running = true
  · cases outcome : job store.view with
    | ok result =>
        obtain ⟨operations, performed⟩ := operates _ _ _ outcome
        exact .committed floored (floored.issued performed) (run_of_answers running outcome).1
    | error abort =>
        unfold Store.run
        rw [if_pos running, outcome]
        cases abort with
        | panic message => exact .refl floored
        | endless => exact .congr floored rfl rfl floored.least
  · rw [run_of_closed (by simpa using running)]
    exact .refl floored

/-- A request continues the store. -/
theorem Continues.serve (floored : Floored durable floor store) {request : Request}
    (operates : request.Operates)
    : Continues durable floor store (store.serve request) := by
  cases request with
  | job job => exact .run floored operates
  | register subscription =>
      unfold Store.serve Store.subscribe
      dsimp only
      split
      · split <;> exact .congr floored rfl rfl floored.least
      · exact .congr floored rfl rfl floored.least
  | cancel id => exact .congr floored rfl rfl floored.least

/-- Opening a durable store again continues it.
Witness: the file is the one that was written with the last commit.
-/
theorem Continues.reopen (floored : Floored durable floor store) (lasts : durable)
    {sorting : Sorting} {schema : Schema} (opens : openOn sorting schema store.medium = .ok later)
    : Continues durable floor store later := by
  obtain ⟨content, file⟩ := floored.file lasts
  have opened := openedOn_of_openOn (file ▸ opens)
  have loaded := load_of_openOn opens
  obtain ⟨least, types⟩ := floored.kept lasts _ loaded
  have medium : later.medium = store.medium := opened.medium.trans file.symm
  have bounded {id : ObjectId} {record : Record} (found : later.records.get? id = some record)
      : id.rank < floor := by
    have entity := Arena.entity?_of_get? found
    rw [types] at entity
    obtain ⟨_, found', _⟩ := Option.map_eq_some_iff.mp entity
    exact floored.numbered.bounded found'
  refine ⟨floor, Nat.le_refl _, ⟨⟨opened.keyed, bounded⟩, least, ?_, fun _ snapshot again => ?_⟩, ?_⟩
  · exact fun _ => ⟨content, opened.medium⟩
  · rw [medium, loaded] at again
    obtain rfl := Except.ok.inj again
    exact ⟨least, rfl⟩
  · intro id entity _ found
    rwa [← types]

/-- An event continues the store, if only a durable one is opened again. -/
theorem Continues.undergo (floored : Floored durable floor store) {event : Event}
    (operates : event.Operates) (lasts : ∀ schema, event = .reopen schema → durable)
    (done : store.undergo event = .ok later)
    : Continues durable floor store later := by
  cases event with
  | serve request =>
      obtain rfl := Except.ok.inj done
      exact .serve floored operates
  | reopen schema => exact .reopen floored (lasts schema rfl) done

-----------------------------------------------------------------------------------------
-- All events
-----------------------------------------------------------------------------------------

/-- Events continue the store.
Witness: induction on the events; the floor only rises, and what stands below it descends step by step.
-/
theorem Continues.undergoAll (floored : Floored durable floor store) {events : List Event}
    (operate : ∀ event ∈ events, event.Operates)
    (lasts : ∀ schema, Event.reopen schema ∈ events → durable)
    (done : store.undergoAll events = .ok later)
    : Continues durable floor store later := by
  induction events generalizing store floor with
  | nil =>
      obtain rfl := Except.ok.inj done
      exact .refl floored
  | cons event events ih =>
      unfold Store.undergoAll at done
      rw [List.foldlM_cons] at done
      cases first : store.undergo event with
      | error _ =>
          rw [first] at done
          contradiction
      | ok middle =>
          rw [first] at done
          obtain ⟨raised, higher, floored', descends⟩ := Continues.undergo floored
            (operate event List.mem_cons_self)
            (fun schema same => lasts schema (same ▸ List.mem_cons_self)) first
          obtain ⟨top, highest, floored'', descends'⟩ := ih floored'
            (fun other listed => operate other (.tail _ listed))
            (fun schema listed => lasts schema (.tail _ listed)) done
          refine ⟨top, Nat.le_trans higher highest, floored'', fun id entity below found => ?_⟩
          exact descends id entity below
            (descends' id entity (Nat.lt_of_lt_of_le below higher) found)

/-- A store that was opened where nothing was kept has a floor. -/
theorem floored_of_openOn {sorting : Sorting} {schema : Schema} {medium : Medium}
    (opens : openOn sorting schema medium = .ok store)
    (empty : medium = .file none ∨ medium = .memory)
    : Floored (medium = .file none) 1 store := by
  have none : Arena.Numbered .empty 1 := ⟨fun found => by contradiction, fun found => by contradiction⟩
  rcases empty with rfl | rfl
  · obtain rfl := Except.ok.inj opens
    refine ⟨none, Nat.le_refl _, fun _ => ⟨_, rfl⟩, fun _ snapshot loaded => ?_⟩
    obtain rfl := Except.ok.inj loaded
    exact ⟨Nat.le_refl _, rfl⟩
  · obtain rfl := Except.ok.inj opens
    exact ⟨none, Nat.le_refl _, fun other => by contradiction, fun other => by contradiction⟩

/-- What three stores, each of which continues the one before, say about the identifiers of their
records. -/
structure Distinguishes (early middle late : Store) : Prop where
  /-- Every record stands under its own identifier, below the next one. -/
  numbered : late.records.Numbered late.nextId.toNat
  /-- Whenever a job inserts something, it gets an identifier under which neither the job sees anything nor
  anything is committed, nor was. -/
  fresh
    : ∀ {operations context entity id after},
        late.view.performAll operations = .ok context
        → context.insert entity = .ok (id, after)
        → context.record? id = none
          ∧ late.records.get? id = none
          ∧ early.records.get? id = none
  /-- What was committed and has gone does not come back. -/
  gone
    : ∀ {id},
        (early.records.get? id).isSome = true
        → middle.records.get? id = none
        → late.records.get? id = none
  /-- What was committed and is there is of the entity type that it was of. -/
  same
    : ∀ {id entity entity'},
        early.records.entity? id = some entity
        → late.records.entity? id = some entity'
        → entity' = entity

end Store

/-- On a store that was opened where nothing was kept, in memory or on a file, any requests whose jobs
operate, and on a file any reopenings that succeed, keep every record under its own identifier below the
next one, and never give out an identifier under which something is or was committed. So an identifier
stands for one record over the whole life of the file: once gone it does not come back.
Witness: everything that was ever committed lies below the next identifier of the file.
-/
theorem identifiers_never_reused {sorting : Sorting} {schema : Schema} {medium : Medium}
    {start : Store} (opens : Store.openOn sorting schema medium = .ok start)
    (empty : medium = .file none ∨ medium = .memory)
    {first second third : List Store.Event}
    (operate : ∀ event ∈ first ++ second ++ third, event.Operates)
    (lasts : ∀ schema, Store.Event.reopen schema ∈ first ++ second ++ third → medium = .file none)
    {early middle late : Store} (done : start.undergoAll first = .ok early)
    (done' : early.undergoAll second = .ok middle) (done'' : middle.undergoAll third = .ok late)
    : Store.Distinguishes early middle late := by
  simp only [List.mem_append] at operate lasts
  have floored := Store.floored_of_openOn opens empty
  obtain ⟨low, _, floored, _⟩ := Store.Continues.undergoAll floored
    (fun event listed => operate event (Or.inl (Or.inl listed)))
    (fun schema listed => lasts schema (Or.inl (Or.inl listed))) done
  obtain ⟨raised, higher, floored', descends⟩ := Store.Continues.undergoAll floored
    (fun event listed => operate event (Or.inl (Or.inr listed)))
    (fun schema listed => lasts schema (Or.inl (Or.inr listed))) done'
  obtain ⟨top, highest, floored'', descends'⟩ := Store.Continues.undergoAll floored'
    (fun event listed => operate event (Or.inr listed))
    (fun schema listed => lasts schema (Or.inr listed)) done''
  refine ⟨floored''.given, ?_, ?_, ?_⟩
  · intro operations context entity id after performed answers
    obtain ⟨beyond, unseen, absent⟩ :=
      (floored''.issued performed).absent floored''.given answers
    refine ⟨unseen, absent, Option.eq_none_iff_forall_ne_some.mpr (fun record found => ?_)⟩
    have below := floored.numbered.bounded found
    have least := floored''.least
    omega
  · intro id present absent
    obtain ⟨record, found⟩ := Option.isSome_iff_exists.mp present
    refine Option.eq_none_iff_forall_ne_some.mpr (fun record' found' => ?_)
    have below := Nat.lt_of_lt_of_le (floored.numbered.bounded found) higher
    have before := descends' id record'.entity below (Arena.entity?_of_get? found')
    rw [Arena.entity?, absent] at before
    contradiction
  · intro id entity entity' known known'
    obtain ⟨record, found, _⟩ := Option.map_eq_some_iff.mp known
    have below := floored.numbered.bounded found
    have middle := descends' id entity' (Nat.lt_of_lt_of_le below higher) known'
    have early := descends id entity' below middle
    exact Option.some.inj (early.symm.trans known)

/-- A job that performs operations, as an event. -/
private def working (operations : List Operation) : Store.Event :=
  .serve (.job (Job.perform operations))

/-- A store with certain identifiers is reached. -/
private theorem exists_reached (store : Store) (events : List Store.Event) (ids : List ObjectId)
    (reached : (store.undergoAll events).toOption.map (·.records.keys) = some ids)
    : ∃ later, store.undergoAll events = .ok later ∧ later.records.keys = ids := by
  obtain ⟨later, found, same⟩ := Option.map_eq_some_iff.mp reached
  cases done : store.undergoAll events with
  | error _ =>
      rw [done] at found
      contradiction
  | ok other =>
      rw [done] at found
      obtain rfl := Option.some.inj found
      exact ⟨other, rfl, same⟩

/-- Two authors are deleted, a third one is taken back, and the store is opened again. The identifier of the
third one is given out once more, but not those of the deleted ones.
-/
theorem deleted_authors_stay_away
    : ∃ start early middle late : Store,
        Store.openOn .insertion Library.model.schema (.file none) = .ok start
        ∧ start.undergoAll [working [.insert Library.author.name, .insert Library.author.name]]
          = .ok early
        ∧ early.undergoAll
            [working [.delete ⟨1⟩, .delete ⟨2⟩], working [.insert Library.author.name, .rollback],
              .reopen Library.model.schema]
          = .ok middle
        ∧ middle.undergoAll [working [.insert Library.author.name]] = .ok late
        ∧ Store.Distinguishes early middle late
        ∧ early.records.keys = [⟨1⟩, ⟨2⟩]
        ∧ late.records.keys = [⟨3⟩] := by
  let start : Store := { Store.opened Library.model.schema with medium := .file none }
  have opens : Store.openOn .insertion Library.model.schema (.file none) = .ok start := rfl
  let first := [working [.insert Library.author.name, .insert Library.author.name]]
  let second :=
    [working [.delete ⟨1⟩, .delete ⟨2⟩], working [.insert Library.author.name, .rollback],
      .reopen Library.model.schema]
  let third := [working [.insert Library.author.name]]
  have operate : ∀ event ∈ first ++ second ++ third, event.Operates := by
    simp only [first, second, third, List.cons_append, List.nil_append, List.forall_mem_cons]
    exact ⟨Job.perform_operates _, Job.perform_operates _, Job.perform_operates _, trivial,
      Job.perform_operates _, fun _ none => absurd none List.not_mem_nil⟩
  obtain ⟨late, all, ids'⟩ := exists_reached start (first ++ second ++ third) [⟨3⟩] (by decide +kernel)
  obtain ⟨middle, both, done''⟩ := Store.undergoAll_append all
  obtain ⟨early, done, done'⟩ := Store.undergoAll_append both
  have ids : early.records.keys = [⟨1⟩, ⟨2⟩] := by
    obtain ⟨other, again, ids⟩ := exists_reached start first [⟨1⟩, ⟨2⟩] (by decide +kernel)
    rwa [Except.ok.inj (again.symm.trans done)] at ids
  exact ⟨start, early, middle, late, opens, done, done', done'',
    identifiers_never_reused opens (Or.inl rfl) operate (fun _ _ => rfl) done done' done'', ids, ids'⟩

end EntityStore
