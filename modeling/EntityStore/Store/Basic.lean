import EntityStore.Entity.Update
import EntityStore.Store.Observer
import EntityStore.Store.Snapshot

/-! The store: committed records behind one worker.
The worker runs one job after another. A job that answers is committed: its changes reach the
records, the snapshot is written, and the observers see the change. A job that gives up leaves the
store as it was. An observer that gives up takes the worker with it, and whoever waits for a closed
worker learns so.
-/

namespace EntityStore

/-- Why a store does not open, or why a job has no answer. -/
inductive StoreError where
  /-- The snapshot could not be read. -/
  | io
  /-- What was read is no snapshot. -/
  | snapshot
  /-- The worker is gone. -/
  | closed
  /-- The job gave up. -/
  | panicked (message : String)
  deriving DecidableEq, Repr

namespace StoreError

/-- The error says that the worker is gone. -/
def isClosed (error : StoreError) : Bool :=
  error = closed

/-- The error says that a job gave up. -/
def isPanicked : StoreError → Bool
  | panicked _ => true
  | _ => false

/-- The error has to do with the snapshot. -/
def isSnapshot (error : StoreError) : Bool :=
  error = io || error = snapshot

/-- The text of an error that does not come from the medium. -/
def message? : StoreError → Option String
  | closed => some "store worker is closed"
  | panicked message => some ("store job panicked: " ++ message)
  | _ => none

end StoreError

/-- What a store keeps its snapshot on. -/
inductive Medium where
  /-- Nothing is kept. -/
  | memory
  /-- A file, which need not be there yet. -/
  | file (content : Option String)
  /-- A file that cannot be made. -/
  | blocked
  /-- A directory stands where the file should be. -/
  | directory
  deriving DecidableEq, Repr

namespace Medium

/-- The text of the file. -/
def content? : Medium → Option String
  | file content => content
  | _ => none

/-- Reads what was kept. -/
def load : Medium → Except StoreError Snapshot
  | file (some content) =>
      match Snapshot.read? content with
      | some snapshot => .ok snapshot
      | none => .error .snapshot
  | directory => .error .io
  | _ => .ok .initial

/-- The medium after keeping a snapshot. A failure to do so goes unnoticed. -/
def save (snapshot : Snapshot) : Medium → Medium
  | file _ => file (some snapshot.text)
  | medium => medium

end Medium

/-- What an observer hands to the callback of its subscription. -/
structure Delivery where
  subscription : Nat
  objects : List Object

/-- A store. -/
structure Store where
  /-- How the records that a query asks for are sorted. -/
  sorting : Sorting := .insertion
  schema : Schema
  medium : Medium
  records : Arena
  nextId : UInt64
  /-- The observers under the numbers of their subscriptions, in the order of registration. -/
  observers : List (Nat × Observer)
  nextSubscription : Nat
  /-- The worker is there. -/
  running : Bool

namespace Store

/-- Opens a store on a medium. -/
def openOn (sorting : Sorting) (schema : Schema) (medium : Medium) : Except StoreError Store := do
  let snapshot ← medium.load
  return {
    sorting
    schema
    medium
    records := snapshot.records
    nextId := snapshot.nextId
    observers := []
    nextSubscription := 1
    running := true
  }

/-- A context that nothing was written to. -/
def view (store : Store) : Context :=
  .ofArena store.records store.schema store.nextId

/-- The store without its worker. -/
def close (store : Store) : Store :=
  { store with observers := [], running := false }

/-- The description of a store. -/
def describe (store : Store) : String :=
  "Store \x7b model: " ++ Text.quoted store.schema.modelName ++ ", .. \x7d"

/-- Lets observers see a commit, in order. What is delivered before an observer gives up stays
delivered. -/
def notify (sorting : Sorting) (changes : ChangeSet) (view : Context)
    : List (Nat × Observer) → List Delivery × Option (List (Nat × Observer))
  | [] => ([], some [])
  | (id, observer) :: rest =>
      match observer.observe sorting changes view with
      | .error _ => ([], none)
      | .ok (observer, objects?) =>
          let (deliveries, observers?) := notify sorting changes view rest
          ((objects?.map (⟨id, ·⟩)).toList ++ deliveries, observers?.map ((id, observer) :: ·))

/-- Commits the changes of a context. Where nothing has changed nothing happens. -/
def commit (store : Store) (context : Context) : List Delivery × Store :=
  let changes := context.changes
  if changes.isEmpty then ([], store)
  else
    let records := context.view
    let store :=
      { store with records, medium := store.medium.save { nextId := store.nextId, records } }
    match notify store.sorting changes store.view store.observers with
    | (deliveries, some observers) => (deliveries, { store with observers })
    | (deliveries, none) => (deliveries, store.close)

/-- Runs a job and commits what it has written. -/
def run (store : Store) (job : Job α) : Except StoreError α × List Delivery × Store :=
  if store.running then
    match job store.view with
    | .ok (answer, context) =>
        let (deliveries, store) := { store with nextId := context.nextId }.commit context
        (if store.running then .ok answer else .error .closed, deliveries, store)
    | .error (.panic message) =>
        (.error (.panicked (message.getD "unknown panic")), [], store)
    | .error .endless => (.error .closed, [], store.close)
  else (.error .closed, [], store)

/-- Fetches the objects of a query. -/
def execute (store : Store) (query : Query)
    : Except StoreError (List Object) × List Delivery × Store :=
  store.run (query.fetch store.sorting)

/-- Inserts or updates a batch of objects. No batch is no job. -/
def addOrUpdate (store : Store) (model : Model) (entity : String) (objects : List Object)
    : List Delivery × Store :=
  if objects.isEmpty then ([], store)
  else (store.run (Object.upsert model (model.entity entity) objects)).2

/-- Deletes what matches a query. -/
def deleteAll (store : Store) (query : Query) : List Delivery × Store :=
  (store.run query.deleteMatches).2

/-- Registers a subscription and returns its number. -/
def subscribe (store : Store) (subscription : Subscription) : Nat × List Delivery × Store :=
  let id := store.nextSubscription
  let store := { store with nextSubscription := id + 1 }
  if store.running then
    match subscription.start store.sorting store.view with
    | .ok (observer, objects?) =>
        (id, (objects?.map (⟨id, ·⟩)).toList,
          { store with observers := store.observers ++ [(id, observer)] })
    | .error _ => (id, [], store.close)
  else (id, [], store)

/-- Drops a subscription. -/
def unsubscribe (store : Store) (id : Nat) : Store :=
  { store with observers := store.observers.filter (fun observer => observer.1 ≠ id) }

end Store

end EntityStore
