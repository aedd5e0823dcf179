import EntityStore.Json.Fields
import EntityStore.Json.Reader
import EntityStore.Text.Letter

/-! Options for opening a store.
A configuration says where committed records live between runs and how the worker of the store is
called. Every option may be left out. A location is told by its kind, and what a kind has no use for
is passed over.
-/

namespace EntityStore

/-- Where committed records live between runs. -/
inductive StoreLocation where
  /-- Nowhere: they are lost when the store shuts down. -/
  | inMemory
  /-- In a file of a directory. -/
  | disk (directory : String)
  deriving DecidableEq, Repr

/-- Options for opening a store. -/
structure StoreConfig where
  location : StoreLocation
  workerName : Option String
  deriving DecidableEq, Repr

namespace StoreLocation

/-- The name of a kind of location. -/
def kind : StoreLocation → String
  | inMemory => "in_memory"
  | disk _ => "disk"

/-- A file within a directory. A file that starts at the root is not moved. -/
def joinPath (directory file : String) : String :=
  if file.startsWith "/" then file
  else if directory.isEmpty || directory.endsWith "/" then directory ++ file
  else directory ++ "/" ++ file

/-- The file of a model's records. -/
def snapshotPath? (model : String) : StoreLocation → Option String
  | inMemory => none
  | disk directory => some (joinPath directory (model ++ ".json"))

end StoreLocation

namespace StoreConfig

/-- A store without files. -/
def default : StoreConfig :=
  { location := .inMemory, workerName := none }

/-- The options with a name for the worker. -/
def withWorkerName (config : StoreConfig) (name : String) : StoreConfig :=
  { config with workerName := some name }

/-- The name of the worker of a model's store. -/
def workerNameFor (config : StoreConfig) (model : String) : String :=
  config.workerName.getD ("persist-" ++ Text.toLower model)

end StoreConfig

namespace StoreLocation

/-- The location of a kind, where the directory is read if the kind has one. -/
def ofKind? (kind : String) (directory : Unit → Option String) : Option StoreLocation :=
  match kind with
  | "in_memory" => some inMemory
  | "disk" => (directory ()).map disk
  | _ => none

/-- The location that a document describes, as an object with its kind or as an array that starts
with it. -/
def ofJson? (depth : Nat) : Json → Option StoreLocation
  | .object members => do
      guard (0 < depth)
      let members ← members.mapM (fun (key, value) => key.map (·, value))
      let kind ← (← Json.member? "kind" members).bind Json.toText?
      let others := members.filter (fun member => member.1 ≠ "kind")
      guard (others.all (fun member => member.2.isReadable (depth - 1)))
      ofKind? kind (fun _ => do (← Json.member? "directory" others).bind Json.toText?)
  | .array (tag :: others) => do
      guard (0 < depth)
      guard (others.all (Json.isReadable (depth - 1)))
      let kind ← tag.toText?
      let location ← ofKind? kind (fun _ => others.head?.bind Json.toText?)
      guard (others.length = match location with
        | inMemory => 0
        | disk _ => 1)
      return location
  | _ => none

end StoreLocation

namespace StoreConfig

/-- The options that a document holds. -/
def ofJson? (depth : Nat) (json : Json) : Option StoreConfig := do
  let fields ← json.toFields? depth ["location", "worker_name"]
  return {
    location := ← fields.defaulted? 0 .inMemory (StoreLocation.ofJson? (depth - 1))
    workerName := ← fields.defaulted? 1 none (Json.toOption? Json.toText?)
  }

/-- The options that a text holds. -/
def read? (text : String) : Option StoreConfig := do
  ofJson? Json.depthLimit (← Json.read? text)

end StoreConfig

end EntityStore
