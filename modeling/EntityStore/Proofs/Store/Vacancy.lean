import EntityStore.Proofs.Store.Numbering
import EntityStore.Proofs.Store.Refinement

/-! Insertions into a store that was opened on any snapshot.
A snapshot holds the next identifier beside the records, and nothing relates the two when it is read. As long
as no record stands under an identifier that is still to be given out, every insertion gets one of its own.
Where a record stands there, insertions reach it, and one of them puts a new record in its place.
-/

namespace EntityStore

variable {first : UInt64} {context after : Context}

/-- The identifier is never given out any more: it lies below the next one, or it is the last of all. -/
def ObjectId.Passed (next : UInt64) (id : ObjectId) : Prop :=
  id.rank < next.toNat ∨ id.rank + 1 = UInt64.size

instance (next : UInt64) (id : ObjectId) : Decidable (id.Passed next) :=
  inferInstanceAs (Decidable (_ ∨ _))

theorem ObjectId.Passed.mono {next later : UInt64} {id : ObjectId} (passed : id.Passed next)
    (after : next.toNat ≤ later.toNat)
    : id.Passed later :=
  passed.imp_left fun below => Nat.lt_of_lt_of_le below after

-----------------------------------------------------------------------------------------
-- Jobs
-----------------------------------------------------------------------------------------

/-- An operation leaves no other records than it has found, inserts one, or takes everything back. -/
theorem Context.perform_cases (keyed : Keyed context.record?) {operation : Operation}
    (performed : context.perform operation = .ok after)
    : (context.SameFrame after
        ∧ ∀ {id record'},
            after.record? id = some record'
            → ∃ record, context.record? id = some record ∧ record'.id = record.id)
      ∨ (∃ entity id, context.Inserted entity id after)
      ∨ after = context.rollback := by
  cases operation with
  | insert entity =>
      rcases context.insert_cases entity with ⟨_, stops⟩ | ⟨id, later, answers, inserted⟩
      · rw [perform, stops] at performed
        contradiction
      · rw [perform, answers] at performed
        obtain rfl := Except.ok.inj performed
        exact .inr (.inl ⟨entity, id, inserted⟩)
  | setValue id key value =>
      obtain rfl := Except.ok.inj performed
      refine .inl ⟨context.sameFrame_setValue id key value, fun found => ?_⟩
      obtain ⟨record, present, same, _⟩ := found_of_setValue found
      exact ⟨record, present, same⟩
  | setRelated id key ids =>
      obtain rfl := Except.ok.inj performed
      refine .inl ⟨context.sameFrame_setRelated id key ids, fun found => ?_⟩
      obtain ⟨record, present, same, _⟩ := found_of_setRelated found
      exact ⟨record, present, same⟩
  | delete id =>
      obtain rfl := Except.ok.inj performed
      have sheds := (cleared_delete context id keyed).sheds
      refine .inl ⟨sheds.frame, fun found => ?_⟩
      obtain ⟨_, record, present, rfl⟩ := sheds.found found
      exact ⟨record, present, Record.shed_id _ record⟩
  | rollback =>
      obtain rfl := Except.ok.inj performed
      exact .inr (.inr rfl)

/-- No record stands where identifiers are still to be given out, neither among those that are seen nor among
the committed ones, and what is given out lies beyond a first identifier.
-/
structure ClearAhead (first : UInt64) (context : Context) : Prop where
  keyed : Keyed context.record?
  keyedCommitted : Keyed context.committed.get?
  least : first.toNat ≤ context.nextId.toNat
  seen : ∀ {id record}, context.record? id = some record → id.Passed context.nextId
  committed : ∀ {id record}, context.committed.get? id = some record → id.Passed context.nextId

namespace ClearAhead

/-- Committed records alone are clear ahead if each of them is. -/
theorem ofArena {arena : Arena} {schema : Schema} {next : UInt64} (keyed : Keyed arena.get?)
    (least : first.toNat ≤ next.toNat)
    (passed : ∀ {id record}, arena.get? id = some record → id.Passed next)
    : ClearAhead first (.ofArena arena schema next) :=
  ⟨keyed, keyed, least, passed, passed⟩

theorem perform (clear : ClearAhead first context) {operation : Operation}
    (performed : context.perform operation = .ok after)
    : ClearAhead first after := by
  rcases context.perform_cases clear.keyed performed
    with ⟨frame, found⟩ | ⟨entity, new, inserted⟩ | rfl
  · refine ⟨fun live => ?_, frame.committed ▸ clear.keyedCommitted, frame.nextId ▸ clear.least,
      fun live => ?_, ?_⟩
    · obtain ⟨record, present, same⟩ := found live
      exact same.trans (clear.keyed present)
    · obtain ⟨record, present, _⟩ := found live
      exact frame.nextId ▸ clear.seen present
    · rw [frame.committed, frame.nextId]
      exact clear.committed
  · have next := inserted.nextId_eq
    have least := clear.least
    refine ⟨fun live => ?_, inserted.committed ▸ clear.keyedCommitted, by omega, fun live => ?_,
      fun live => ?_⟩
    · rcases inserted.found_cases live with ⟨rfl, rfl⟩ | present
      · exact (context.fresh_spec _ entity).1
      · exact clear.keyed present
    · rcases inserted.found_cases live with ⟨rfl, rfl⟩ | present
      · exact .inl (by rw [inserted.rank_eq]; omega)
      · exact (clear.seen present).mono (by omega)
    · exact (clear.committed (inserted.committed ▸ live)).mono (by omega)
  · exact ⟨clear.keyedCommitted, clear.keyedCommitted, clear.least, clear.committed, clear.committed⟩

/-- Witness: induction on the operations. -/
theorem performAll (clear : ClearAhead first context) {operations : List Operation}
    (performed : context.performAll operations = .ok after)
    : ClearAhead first after := by
  induction operations generalizing context with
  | nil =>
      obtain rfl := Except.ok.inj performed
      exact clear
  | cons operation operations ih =>
      unfold Context.performAll at performed
      rw [List.foldlM_cons] at performed
      cases step : context.perform operation with
      | error abort =>
          rw [step] at performed
          contradiction
      | ok middle =>
          rw [step] at performed
          exact ih (clear.perform step) performed

/-- Whatever is inserted, nothing is seen or committed under its identifier. -/
theorem absent (clear : ClearAhead first context) {entity : String} {id : ObjectId}
    (answers : context.insert entity = .ok (id, after))
    : ¬ id.Passed first ∧ context.record? id = none ∧ context.committed.get? id = none := by
  have ahead : ¬ id.Passed context.nextId := by
    rcases context.insert_cases entity with ⟨_, stops⟩ | ⟨_, later, answers', inserted⟩
    · rw [stops] at answers
      contradiction
    · obtain ⟨rfl, rfl⟩ := Prod.mk.inj (Except.ok.inj (answers'.symm.trans answers))
      have rank := inserted.rank_eq
      have next := inserted.nextId_eq
      have bound := later.nextId.toNat_lt_size
      unfold ObjectId.Passed
      omega
  refine ⟨fun passed => ahead (passed.mono clear.least), ?_, ?_⟩
  · exact Option.eq_none_iff_forall_ne_some.mpr fun record found => ahead (clear.seen found)
  · exact Option.eq_none_iff_forall_ne_some.mpr fun record found => ahead (clear.committed found)

end ClearAhead

-----------------------------------------------------------------------------------------
-- Requests
-----------------------------------------------------------------------------------------

namespace Store

variable {store : Store}

/-- A job stays clear ahead, whether it is committed, changes nothing or gives up. -/
theorem clearAhead_run {α : Type} (clear : ClearAhead first store.view) {job : Job α}
    (operates : job.Operates)
    : ClearAhead first (store.run job).2.2.view := by
  by_cases running : store.running = true
  · cases outcome : job store.view with
    | ok result =>
        obtain ⟨answer, after⟩ := result
        obtain ⟨operations, performed⟩ := operates _ _ _ outcome
        have ends := clear.performAll performed
        obtain ⟨records, _, nextId⟩ := (run_of_answers running outcome).1
        unfold Store.view
        rw [records, nextId]
        split
        · have same : after.committed = store.records := Context.committed_of_performAll performed
          exact .ofArena (same ▸ ends.keyedCommitted) ends.least fun found => ends.committed (same ▸ found)
        · refine .ofArena (fun found => ends.keyed (after.get?_view _ ▸ found)) ends.least
            fun found => ends.seen (after.get?_view _ ▸ found)
    | error abort =>
        unfold Store.run
        rw [if_pos running, outcome]
        cases abort with
        | panic message => exact clear
        | endless => exact clear
  · rw [run_of_closed (by simpa using running)]
    exact clear

theorem clearAhead_serve (clear : ClearAhead first store.view) {request : Request}
    (operates : request.Operates)
    : ClearAhead first (store.serve request).view := by
  cases request with
  | job job => exact clearAhead_run clear operates
  | register subscription =>
      unfold Store.serve Store.subscribe
      dsimp only
      split
      · split <;> exact clear
      · exact clear
  | cancel id => exact clear

/-- Witness: induction on the requests. -/
theorem clearAhead_serveAll (clear : ClearAhead first store.view) {requests : List Request}
    (operate : ∀ request ∈ requests, request.Operates)
    : ClearAhead first (store.serveAll requests).view := by
  induction requests generalizing store with
  | nil => exact clear
  | cons request requests ih =>
      exact ih (clearAhead_serve clear (operate _ List.mem_cons_self))
        (fun other listed => operate other (.tail _ listed))

end Store

-----------------------------------------------------------------------------------------
-- Insertions in a row
-----------------------------------------------------------------------------------------

/-- New records of an entity, one after another. -/
def insertions (entity : String) (count : Nat) : List Operation :=
  List.replicate count (.insert entity)

/-- Only the last identifier is not given out. -/
theorem Context.insert_of_room (context : Context) (entity : String)
    (room : context.nextId.toNat + 1 < UInt64.size)
    : ∃ id after, context.insert entity = .ok (id, after) ∧ context.Inserted entity id after := by
  rcases context.insert_cases entity with ⟨_, stops⟩ | answers
  · rw [insert, if_neg (Nat.ne_of_lt room)] at stops
    contradiction
  · exact answers

/-- Insertions take identifiers one after another and leave what lies ahead as it is.
Witness: induction on their number.
-/
theorem Context.performAll_insertions (context : Context) (entity : String) {count : Nat}
    (room : context.nextId.toNat + count < UInt64.size)
    : ∃ after,
        context.performAll (insertions entity count) = .ok after
        ∧ after.nextId.toNat = context.nextId.toNat + count
        ∧ after.committed = context.committed
        ∧ after.schema = context.schema
        ∧ ∀ id, context.nextId.toNat + count ≤ id.rank → after.record? id = context.record? id := by
  induction count generalizing context with
  | zero => exact ⟨context, rfl, rfl, rfl, rfl, fun _ _ => rfl⟩
  | succ count ih =>
      obtain ⟨new, middle, answers, inserted⟩ := context.insert_of_room entity (by omega)
      have next := inserted.nextId_eq
      obtain ⟨after, performed, nextId, committed, schema, ahead⟩ := ih middle (by omega)
      refine ⟨after, ?_, by omega, committed.trans inserted.committed, schema.trans inserted.schema,
        fun id beyond => ?_⟩
      · unfold performAll insertions
        rw [List.replicate_succ, List.foldlM_cons, perform, answers]
        exact performed
      · have other : id ≠ new := by
          rintro rfl
          have rank := inserted.rank_eq
          omega
        rw [ahead id (by omega), inserted.records, if_neg other]

/-- Witness: the last insertion comes after the others. -/
theorem Context.performAll_insertions_succ {middle : Context} {entity : String} {count : Nat} {id : ObjectId}
    (performed : context.performAll (insertions entity count) = .ok middle)
    (answers : middle.insert entity = .ok (id, after))
    : context.performAll (insertions entity (count + 1)) = .ok after := by
  have last : middle.performAll [.insert entity] = .ok after := by
    rw [performAll, List.foldlM_cons, perform, answers]
    rfl
  unfold performAll insertions at *
  rw [List.replicate_succ', List.foldlM_append, performed]
  exact last

namespace Store

/-- After some insertions the next one gets the identifier of a live record, which has not been written to.
It is not reported as inserted, and committing puts a new record in its place.
-/
structure Overwrites (store : Store) (entity : String) (count : Nat) (id : ObjectId) (record : Record)
    : Prop where
  lands
    : ∃ context after,
        store.view.performAll (insertions entity count) = .ok context
        ∧ context.record? id = some record
        ∧ context.insert entity = .ok (id, after)
        ∧ id ∉ after.changes.inserted
  lost
    : (store.run (Job.perform (insertions entity (count + 1)))).2.2.records.get? id
      = some (store.view.fresh id entity)

variable {store : Store}

/-- Insertions reach a record that stands where identifiers are still to be given out. -/
theorem overwrites_of_not_passed (running : store.running = true) {id : ObjectId} {record : Record}
    (found : store.records.get? id = some record) (ahead : ¬ id.Passed store.nextId) (entity : String)
    : store.Overwrites entity (id.rank - store.nextId.toNat) id record := by
  unfold ObjectId.Passed at ahead
  have bound : id.rank < UInt64.size := id.number.toNat_lt_size
  have start : store.view.nextId.toNat = store.nextId.toNat := rfl
  obtain ⟨context, performed, nextId, committed, schema, same⟩ :=
    store.view.performAll_insertions entity (show _ + (id.rank - store.nextId.toNat) < UInt64.size by omega)
  have here : context.nextId.toNat = id.rank := by omega
  obtain ⟨new, after, answers, inserted⟩ := context.insert_of_room entity (by omega)
  obtain rfl : new = id := ObjectId.rank_inj (inserted.rank_eq.trans here)
  have kept : after.committed = store.records := inserted.committed.trans committed
  have fresh : context.fresh new entity = store.view.fresh new entity := by
    unfold Context.fresh
    rw [schema]
  refine ⟨⟨context, after, performed, ?_, answers, ?_⟩, ?_⟩
  · rw [same new (by omega)]
    exact found
  · rw [after.changes_eq_difference, Arena.mem_inserted_iff, kept, found]
    exact fun reported => Option.some_ne_none _ reported.2
  · have all : Job.perform (insertions entity (new.rank - store.nextId.toNat + 1)) store.view
        = .ok ((), after) := by
      rw [Job.perform, Context.performAll_insertions_succ performed answers]
      rfl
    have later := (run_of_answer running all kept).1 new
    refine later.trans ?_
    rw [inserted.found, fresh]

/-- No record stands under an identifier that is still to be given out. -/
def Vacant (store : Store) : Prop :=
  ∀ id record, store.records.get? id = some record → id.Passed store.nextId

/-- Whatever requests are served whose jobs operate, and whatever operations a job has performed then, an
insertion gets an identifier under which the job sees nothing and nothing is committed, nor was at first.
-/
def InsertsApart (store : Store) : Prop :=
  ∀ requests : List Request,
    (∀ request ∈ requests, request.Operates)
    → ∀ {operations context entity id after},
        (store.serveAll requests).view.performAll operations = .ok context
        → context.insert entity = .ok (id, after)
        → context.record? id = none
          ∧ (store.serveAll requests).records.get? id = none
          ∧ store.records.get? id = none

/-- Insertions stay apart from all records exactly if none stands where identifiers are still to be given out.
Witness: no operation changes that; and where a record stands there, insertions reach it.
-/
theorem insertsApart_iff_vacant (running : store.running = true) (keyed : Keyed store.records.get?)
    : store.InsertsApart ↔ store.Vacant := by
  constructor
  · intro apart id record found
    by_contra ahead
    obtain ⟨context, after, performed, live, answers, _⟩ :=
      (overwrites_of_not_passed running found ahead "").lands
    have unseen := (apart [] (fun _ listed => absurd listed List.not_mem_nil) performed answers).1
    rw [live] at unseen
    contradiction
  · intro vacant requests operate operations context entity id after performed answers
    have start : ClearAhead store.nextId store.view :=
      .ofArena keyed (Nat.le_refl _) fun found => vacant _ _ found
    have clear := (clearAhead_serveAll start operate).performAll performed
    have committed := Context.committed_of_performAll performed
    obtain ⟨ahead, unseen, absent⟩ := clear.absent answers
    have unused : store.records.get? id = none :=
      Option.eq_none_iff_forall_ne_some.mpr fun record found => ahead (vacant id record found)
    rw [committed] at absent
    exact ⟨unseen, absent, unused⟩

theorem running_of_openOn {sorting : Sorting} {schema : Schema} {medium : Medium}
    (opens : openOn sorting schema medium = .ok store)
    : store.running = true := by
  unfold openOn at opens
  cases loaded : medium.load with
  | error _ =>
      rw [loaded] at opens
      contradiction
  | ok snapshot =>
      rw [loaded] at opens
      obtain rfl := Except.ok.inj opens
      rfl

/-- What a store that was opened on a text is in for. -/
structure OpenedApart (text : String) (store : Store) : Prop where
  /-- It holds what is read of the text. -/
  read : Snapshot.read? text = some { nextId := store.nextId, records := store.records }
  apart_iff : store.InsertsApart ↔ store.Vacant
  overwrites
    : ∀ {id record},
        store.records.get? id = some record
        → ¬ id.Passed store.nextId
        → ∀ entity, store.Overwrites entity (id.rank - store.nextId.toNat) id record

end Store

/-- A store opens on every text that holds a snapshot. No insertion of any later job gets the identifier of a
record exactly if every record of the snapshot stands below its next identifier or under the last one of all;
each other record is lost to insertions.
-/
theorem snapshot_insertions {sorting : Sorting} {schema : Schema} {text : String} {store : Store}
    (opens : Store.openOn sorting schema (.file (some text)) = .ok store)
    : store.OpenedApart text := by
  have running := Store.running_of_openOn opens
  exact ⟨Store.read?_of_openOn opens,
    Store.insertsApart_iff_vacant running (Store.openedOn_of_openOn opens).keyed,
    fun found ahead => Store.overwrites_of_not_passed running found ahead⟩

/-- One author under the first identifier, beside some next identifier. -/
private def authorSnapshot (nextId : UInt64) : Snapshot :=
  let author := (Record.new ⟨1⟩ Library.author.name).setValue "name" (some (.string "Woolf"))
  { nextId, records := Table.empty.insert ⟨1⟩ author }

/-- The library that is opened on the text of the author. -/
private def authorLibrary (nextId : UInt64) : Store :=
  { Store.opened Library.model.schema with
    medium := .file (some (authorSnapshot nextId).text)
    records := (authorSnapshot nextId).records
    nextId }

private theorem opens_authorLibrary {nextId : UInt64}
    (read : Snapshot.read? (authorSnapshot nextId).text = some (authorSnapshot nextId))
    : Store.openOn .insertion Library.model.schema (.file (some (authorSnapshot nextId).text))
      = .ok (authorLibrary nextId) := by
  unfold Store.openOn
  rw [Store.load_file_iff.mpr read]
  rfl

/-- Where the next identifier of the text lies behind the author, the author stays. -/
theorem author_stays
    : Store.openOn .insertion Library.model.schema (.file (some (authorSnapshot 2).text))
        = .ok (authorLibrary 2)
      ∧ (authorLibrary 2).records.keys = [⟨1⟩]
      ∧ (authorLibrary 2).OpenedApart (authorSnapshot 2).text
      ∧ (authorLibrary 2).InsertsApart := by
  have opens := opens_authorLibrary (show Snapshot.read? (authorSnapshot 2).text = _ by decide +kernel)
  have vacant : (authorLibrary 2).Vacant := by
    intro id record found
    change ((Table.empty.insert _ _).get? id) = some record at found
    rw [Table.get?_insert] at found
    split at found
    · next same =>
        subst same
        exact .inl (by decide)
    · rw [Table.get?_empty] at found
      cases found
  have apart := snapshot_insertions opens
  exact ⟨opens, by decide +kernel, apart, apart.apart_iff.mpr vacant⟩

/-- Where the text gives the identifier of the author as the next one, the first insertion gets it, and
another author takes the place of the author.
-/
theorem author_lost
    : Store.openOn .insertion Library.model.schema (.file (some (authorSnapshot 1).text))
        = .ok (authorLibrary 1)
      ∧ ¬ (authorLibrary 1).InsertsApart
      ∧ (authorLibrary 1).records.keys = [⟨1⟩]
      ∧ ((authorLibrary 1).run (Job.insert Library.author.name)).1.toOption = some ⟨1⟩
      ∧ ((authorLibrary 1).run (Job.insert Library.author.name)).2.2.records.keys = [⟨1⟩]
      ∧ ((authorLibrary 1).run (Job.insert Library.author.name)).2.2.records
          ≠ (authorLibrary 1).records := by
  have opens := opens_authorLibrary (show Snapshot.read? (authorSnapshot 1).text = _ by decide +kernel)
  have crowded : ¬ (authorLibrary 1).Vacant := by
    intro vacant
    have ahead : ¬ ObjectId.Passed 1 ⟨1⟩ := by decide +kernel
    exact ahead (vacant _ _ rfl)
  refine ⟨opens, fun apart => crowded ?_, by decide +kernel, by decide +kernel, by decide +kernel,
    by decide +kernel⟩
  exact (Store.insertsApart_iff_vacant rfl (Store.openedOn_of_openOn opens).keyed).mp apart

end EntityStore
