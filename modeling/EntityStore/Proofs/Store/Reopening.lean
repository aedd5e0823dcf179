import EntityStore.Proofs.Snapshot.ReadBack
import EntityStore.Proofs.Store.Survival

/-! Reopening a store on a file.
The file holds the text of the records of the last commit, or what it has held when the store was opened.
So reopening gives back exactly these records wherever every attribute among them is given back by its
document, and once something was committed nowhere else.
-/

namespace EntityStore

-----------------------------------------------------------------------------------------
-- Requests of operations
-----------------------------------------------------------------------------------------

/-- A request writes by operations alone. -/
def Store.Request.Operates : Store.Request → Prop
  | .job task => task.Operates
  | .register _ => True
  | .cancel _ => True

/-- Operations leave records under their own identifiers. -/
theorem Job.Operates.keyed {α : Type} {job : Job α} (operates : job.Operates) {store : Store}
    (keyed : Keyed store.records.get?) {answer : α} {after : Context}
    (answers : job store.view = .ok (answer, after))
    : Keyed after.view.get? := by
  obtain ⟨operations, performed⟩ := operates _ _ _ answers
  have mirrors := Mirrors.ofArena keyed store.schema store.nextId
  rcases mirrors.performAll operations with ⟨after', _, performed', _, later⟩ | ⟨_, stops, _⟩
  · rw [Store.view] at performed
    obtain rfl := Except.ok.inj (performed.symm.trans performed')
    intro id record found
    rw [Context.get?_view] at found
    exact later.keyed found
  · rw [Store.view, stops] at performed
    contradiction

-----------------------------------------------------------------------------------------
-- Files
-----------------------------------------------------------------------------------------

/-- Records that are put under their own identifiers stand there. -/
theorem Arena.keyed_ofList (records : List Record)
    : Keyed (Table.ofList (records.map (fun record => (record.id, record)))).get? := by
  induction records using List.reverseRecOn with
  | nil =>
      intro id record found
      contradiction
  | append_singleton records last ih =>
      intro id record found
      rw [List.map_append, Table.ofList, List.foldl_append] at found
      change ((Table.ofList (records.map (fun record => (record.id, record)))).insert last.id last).get? id
        = some record at found
      rw [Table.get?_insert] at found
      split at found
      · next same =>
          cases found
          exact same.symm
      · exact ih found

/-- What is read of a snapshot are records under their own identifiers. -/
theorem Snapshot.keyed_of_read? {text : String} {snapshot : Snapshot} (found : read? text = some snapshot)
    : Keyed snapshot.records.get? := by
  unfold read? ofJson? at found
  simp only [Option.bind_eq_bind, Option.bind_eq_some_iff, Option.pure_def, Option.some.injEq] at found
  obtain ⟨_, _, _, _, _, _, records, _, rfl⟩ := found
  exact Arena.keyed_ofList records

namespace Store

variable {sorting : Sorting} {schema : Schema} {content : Option String} {start store : Store}

/-- A store opens with the records that are loaded of its medium. -/
theorem openOn_of_load (sorting : Sorting) (schema : Schema) {medium : Medium} {snapshot : Snapshot}
    (loaded : medium.load = .ok snapshot)
    : ∃ later, openOn sorting schema medium = .ok later ∧ later.records = snapshot.records := by
  unfold openOn
  rw [loaded]
  exact ⟨_, rfl, rfl⟩

/-- A file is loaded as what is read of its text. -/
theorem load_file_iff {text : String} {snapshot : Snapshot}
    : (Medium.file (some text)).load = .ok snapshot ↔ Snapshot.read? text = some snapshot := by
  unfold Medium.load
  cases read : Snapshot.read? text with
  | none => simp [read]
  | some found => simp [read]

/-- A store opens with what is loaded of its medium. -/
theorem load_of_openOn {medium : Medium} {later : Store}
    (opens : openOn sorting schema medium = .ok later)
    : medium.load = .ok { nextId := later.nextId, records := later.records } := by
  unfold openOn at opens
  cases loaded : medium.load with
  | error _ =>
      rw [loaded] at opens
      contradiction
  | ok snapshot =>
      rw [loaded] at opens
      obtain rfl := Except.ok.inj opens
      rfl

/-- The text that a store opens on holds its records. -/
theorem read?_of_openOn {text : String} {later : Store}
    (opens : openOn sorting schema (.file (some text)) = .ok later)
    : Snapshot.read? text = some { nextId := later.nextId, records := later.records } :=
  load_file_iff.mp (load_of_openOn opens)

/-- A store that was opened on a file. -/
structure OpenedOn (schema : Schema) (content : Option String) (start : Store) : Prop where
  loaded : (Medium.file content).load = .ok { nextId := start.nextId, records := start.records }
  schema : start.schema = schema
  medium : start.medium = .file content
  keyed : Keyed start.records.get?

theorem openedOn_of_openOn (opens : openOn sorting schema (.file content) = .ok start)
    : OpenedOn schema content start := by
  have frame : start.schema = schema ∧ start.medium = .file content := by
    unfold openOn at opens
    cases loaded : Medium.load (.file content) with
    | error _ =>
        rw [loaded] at opens
        contradiction
    | ok snapshot =>
        rw [loaded] at opens
        obtain rfl := Except.ok.inj opens
        exact ⟨rfl, rfl⟩
  refine ⟨load_of_openOn opens, frame.1, frame.2, ?_⟩
  cases content with
  | none =>
      obtain rfl := Except.ok.inj opens
      intro id record found
      contradiction
  | some text => exact Snapshot.keyed_of_read? (read?_of_openOn opens)

/-- What a store that was opened keeps through all requests: its records stand under their own
identifiers, and its file holds them, or nothing was committed yet. -/
structure Kept (start store : Store) : Prop where
  schema : store.schema = start.schema
  keyed : Keyed store.records.get?
  file
    : (store.medium = start.medium ∧ store.records = start.records)
      ∨ ∃ nextId, store.medium = .file (some (Snapshot.text { nextId, records := store.records }))

theorem Kept.refl (opened : OpenedOn schema content start) : Kept start start :=
  ⟨rfl, opened.keyed, Or.inl ⟨rfl, rfl⟩⟩

/-- What changes neither the records nor the file keeps it. -/
theorem Kept.congr (kept : Kept start store) {later : Store} (schema : later.schema = store.schema)
    (records : later.records = store.records) (medium : later.medium = store.medium)
    : Kept start later := by
  refine ⟨schema.trans kept.schema, by rw [records]; exact kept.keyed, ?_⟩
  rw [records, medium]
  exact kept.file

/-- A job that operates keeps it. -/
theorem Kept.run {α : Type} (opened : OpenedOn schema content start) (kept : Kept start store)
    {job : Job α} (operates : job.Operates)
    : Kept start (store.run job).2.2 := by
  have schema := store.run_schema job
  by_cases running : store.running = true
  · cases outcome : job store.view with
    | ok result =>
        obtain ⟨answer, after⟩ := result
        obtain ⟨records, medium, _⟩ := (run_of_answers running outcome).1
        by_cases unchanged : after.changes.isEmpty = true
        · rw [if_pos unchanged] at records medium
          exact kept.congr schema records medium
        · rw [if_neg unchanged] at records medium
          refine ⟨schema.trans kept.schema, ?_, Or.inr ⟨after.nextId, ?_⟩⟩
          · rw [records]
            exact operates.keyed kept.keyed outcome
          · obtain ⟨before, file⟩ : ∃ before, store.medium = .file before := by
              rcases kept.file with ⟨same, _⟩ | ⟨_, file⟩
              · exact ⟨_, same.trans opened.medium⟩
              · exact ⟨_, file⟩
            rw [medium, records, file]
            rfl
    | error abort =>
        cases abort with
        | panic message =>
            rw [run_of_panic running outcome]
            exact kept
        | endless =>
            have gone : store.run job = (.error .closed, [], store.close) := by
              unfold Store.run
              rw [if_pos running, outcome]
            rw [gone]
            exact kept.congr rfl rfl rfl
  · rw [run_of_closed (by simpa using running)]
    exact kept

/-- A request that operates keeps it. -/
theorem Kept.serve (opened : OpenedOn schema content start) (kept : Kept start store)
    {request : Request} (operates : request.Operates)
    : Kept start (store.serve request) := by
  cases request with
  | job job => exact kept.run opened operates
  | register subscription =>
      unfold Store.serve Store.subscribe
      dsimp only
      split
      · split <;> exact kept.congr rfl rfl rfl
      · exact kept.congr rfl rfl rfl
  | cancel id => exact kept.congr rfl rfl rfl

/-- All requests keep it.
Witness: induction on the requests.
-/
theorem Kept.serveAll (opened : OpenedOn schema content start) (kept : Kept start store)
    {requests : List Request} (operate : ∀ request ∈ requests, request.Operates)
    : Kept start (store.serveAll requests) := by
  induction requests generalizing store with
  | nil => exact kept
  | cons request requests ih =>
      exact ih (kept.serve opened (operate _ List.mem_cons_self))
        (fun other inside => operate other (.tail _ inside))

-----------------------------------------------------------------------------------------
-- Reopening
-----------------------------------------------------------------------------------------

/-- The store that is opened on the medium that a store leaves. -/
def reopen (store : Store) : Except StoreError Store :=
  openOn store.sorting store.schema store.medium

/-- A file whose text holds no snapshot is not opened. -/
theorem openOn_of_unread (sorting : Sorting) (schema : Schema) {text : String}
    (unread : Snapshot.read? text = none)
    : openOn sorting schema (.file (some text)) = .error .snapshot := by
  unfold openOn Medium.load
  simp only [unread]
  rfl

/-- Which of the records of a store that was opened on a file are there when the file is opened again. -/
structure Restores (start store : Store) : Prop where
  /-- The file holds the records of the last commit. -/
  written
    : (store.medium = start.medium ∧ store.records = start.records)
      ∨ ∃ nextId, store.medium = .file (some (Snapshot.text { nextId, records := store.records }))
  read
    : ∀ nextId,
        let snapshot : Snapshot := { nextId, records := store.records }
        Snapshot.read? snapshot.text = some snapshot ↔ store.records.meets .lasts = true
  reopens
    : store.records.meets .lasts = true
      → ∃ later, store.reopen = .ok later ∧ later.records = store.records
  fails
    : store.medium ≠ start.medium
      → store.records.meets .lasts = false
      → ∀ later, store.reopen = .ok later → later.records ≠ store.records
  /-- Whether the file is opened at all. -/
  opens
    : store.medium ≠ start.medium
      → if store.records.meets .isRead then ∃ later, store.reopen = .ok later
        else store.reopen = .error .snapshot
  short : store.records.meets .isShort = true → store.records.meets .lasts = true
  finite : store.records.meets .isRead = true → store.records.meets .isFinite = true

/-- A file of which everything is read, but not everything as it was, is opened with other records. -/
theorem Restores.altered (restores : Restores start store) (moved : store.medium ≠ start.medium)
    (read : store.records.meets .isRead = true) (lost : store.records.meets .lasts = false)
    : ∃ later, store.reopen = .ok later ∧ later.records ≠ store.records := by
  have opens := restores.opens moved
  rw [if_pos read] at opens
  obtain ⟨later, opens⟩ := opens
  exact ⟨later, opens, restores.fails moved lost later opens⟩

/-- What a store has kept is restored as far as its numbers and timestamps are given back. -/
theorem Kept.restores (opened : OpenedOn schema content start) (kept : Kept start store)
    : Restores start store := by
  have read (nextId : UInt64)
      : Snapshot.read? (Snapshot.text { nextId, records := store.records })
          = some { nextId, records := store.records }
        ↔ store.records.meets .lasts = true :=
    Snapshot.read?_text_iff kept.keyed
  refine ⟨kept.file, read, fun lasts => ?_, fun moved lost later opens same => ?_, fun moved => ?_,
    Arena.meets_of_implies Demand.lasts_of_isShort,
    Arena.meets_of_implies Demand.isFinite_of_isRead⟩
  · rcases kept.file with ⟨medium, records⟩ | ⟨nextId, file⟩
    · rw [reopen, medium, opened.medium, records]
      exact openOn_of_load _ _ opened.loaded
    · rw [reopen, file]
      exact openOn_of_load _ _ (load_file_iff.mpr ((read nextId).mpr lasts))
  · rcases kept.file with ⟨medium, _⟩ | ⟨nextId, file⟩
    · exact moved medium
    · rw [reopen, file] at opens
      have found := read?_of_openOn opens
      have next := Snapshot.nextId_of_read? found
      dsimp only at next
      rw [next, same] at found
      exact Bool.false_ne_true (lost.symm.trans ((read nextId).mp found))
  · obtain ⟨nextId, file⟩ := kept.file.resolve_left (fun same => moved same.1)
    have some := Snapshot.isSome_read?_text { nextId, records := store.records }
    rw [reopen, file]
    split
    · next isRead =>
        obtain ⟨snapshot, found⟩ := Option.isSome_iff_exists.mp (some.mpr isRead)
        obtain ⟨later, opens, _⟩ :=
          openOn_of_load store.sorting store.schema (load_file_iff.mpr found)
        exact ⟨later, opens⟩
    · next unread =>
        refine openOn_of_unread _ _ (Option.not_isSome_iff_eq_none.mp (fun found => ?_))
        exact unread (some.mp found)

end Store

/-- After any requests whose jobs operate, on a store that was opened on a file, opening the file again
gives exactly the records of the last commit where the literals of all their numbers stand for the numbers,
as short ones do, and no timestamp but a leap second has a second's worth of nanoseconds. Where something was
committed and one of them is not given back, the records are other ones, and where one is not even read, as a
number that is not finite, the file is not opened any more.
Witness: every commit writes its records to the file, and they are read back as far as their numbers and
timestamps are.
-/
theorem reopening_restores {sorting : Sorting} {schema : Schema} {content : Option String}
    {start : Store} (opens : Store.openOn sorting schema (.file content) = .ok start)
    {requests : List Store.Request}
    (operate : ∀ request ∈ requests, request.Operates)
    : Store.Restores start (start.serveAll requests) := by
  have opened := Store.openedOn_of_openOn opens
  exact ((Store.Kept.refl opened).serveAll opened operate).restores opened

/-- A library that was opened on a file that is not there yet. -/
private def freshLibrary : Store :=
  { Store.opened Library.model.schema with medium := .file none }

/-- A book is inserted with some attributes and a relation. -/
private def shelving (attributes : List (String × Value)) : List Store.Request :=
  let sets := attributes.map (fun entry => Operation.setValue ⟨1⟩ entry.1 (some entry.2))
  [.job (Job.perform
    ([.insert Library.book.name] ++ sets ++ [.setRelated ⟨1⟩ "sequels" [⟨1⟩, ⟨7⟩]]))]

private theorem shelving_operate (attributes : List (String × Value))
    : ∀ request ∈ shelving attributes, request.Operates := by
  intro request listed
  rw [List.mem_singleton.mp listed]
  exact Job.perform_operates _

/-- A book with a half, the negative zero, the least of all doubles, control characters and a list in a
list is restored.
-/
theorem half_restored
    : let store := freshLibrary.serveAll
        (shelving
          [("title", .string "\"\\\n\x00"), ("price", .double ⟨0x3fe0000000000000⟩),
            ("rank", .double ⟨0x8000000000000000⟩), ("weight", .double ⟨1⟩),
            ("tags", .list [.list [], .bool true, .float ⟨0x7f7fffff⟩])])
      Store.openOn .insertion Library.model.schema (.file none) = .ok freshLibrary
      ∧ Store.Restores freshLibrary store
      ∧ store.records.values.length = 1
      ∧ store.records.meets .lasts = true := by
  intro store
  have opens : Store.openOn .insertion Library.model.schema (.file none) = .ok freshLibrary := rfl
  exact ⟨opens, reopening_restores opens (shelving_operate _), by decide +kernel, by decide +kernel⟩

/-- A book with a value that is no number is committed, and no store opens on its file any more. A book
with an eleventh is committed, and another number is read from its file. A book with one and a half seconds
after the tenth second is committed, and another timestamp is read from its file.
-/
theorem numbers_and_timestamps_lost
    : let nan := freshLibrary.serveAll (shelving [("price", .double ⟨0x7ff8000000000000⟩)])
      let eleventh := freshLibrary.serveAll (shelving [("price", .double ⟨0x3fb745d1745d1746⟩)])
      let late := freshLibrary.serveAll
        (shelving [("sold", .timestamp ⟨10, 1500000000, by decide, by decide⟩)])
      nan.records.values.length = 1
      ∧ nan.reopen = .error .snapshot
      ∧ eleventh.records.values.length = 1
      ∧ (∃ later, eleventh.reopen = .ok later ∧ later.records ≠ eleventh.records)
      ∧ late.records.values.length = 1
      ∧ ∃ later, late.reopen = .ok later ∧ later.records ≠ late.records := by
  intro nan eleventh late
  have opens : Store.openOn .insertion Library.model.schema (.file none) = .ok freshLibrary := rfl
  have opened := Store.openedOn_of_openOn opens
  have restores (attributes : List (String × Value))
      : Store.Restores freshLibrary (freshLibrary.serveAll (shelving attributes)) :=
    ((Store.Kept.refl opened).serveAll opened (shelving_operate attributes)).restores opened
  have moved : nan.medium ≠ freshLibrary.medium
      ∧ eleventh.medium ≠ freshLibrary.medium
      ∧ late.medium ≠ freshLibrary.medium := by
    decide +kernel
  refine ⟨by decide +kernel, ?_, by decide +kernel, ?_, by decide +kernel, ?_⟩
  · have opens := (restores _).opens moved.1
    rwa [if_neg (by decide +kernel)] at opens
  · exact (restores _).altered moved.2.1 (by decide +kernel) (by decide +kernel)
  · exact (restores _).altered moved.2.2 (by decide +kernel) (by decide +kernel)

end EntityStore
