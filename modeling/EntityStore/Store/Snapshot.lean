import EntityStore.Json.Reader
import EntityStore.Record.Json

/-! Snapshots: the committed records of a store and its next identifier, as they are kept between
runs. The records stand in ascending order of their identifiers; of two records with one identifier
the last one counts.
-/

namespace EntityStore

/-- What is kept of a store between runs. -/
structure Snapshot where
  nextId : UInt64
  records : Arena
  deriving DecidableEq

namespace Snapshot

/-- What a store starts with that nothing was kept of. -/
def initial : Snapshot :=
  { nextId := 1, records := .empty }

/-- The document of a snapshot. -/
def toJson (snapshot : Snapshot) : Json :=
  .record
    [("next_id", .ofInt snapshot.nextId.toNat),
      ("records", .array (snapshot.records.values.map Record.toJson))]

/-- The snapshot of a document. -/
def ofJson? (depth : Nat) (json : Json) : Option Snapshot := do
  let fields ← json.toFields? depth ["next_id", "records"]
  let nextId ← fields.required? 0 Json.toUInt64?
  let records ← fields.required? 1 (Json.toList? (depth - 1) Record.ofJson?)
  return { nextId, records := Table.ofList (records.map (fun record => (record.id, record))) }

/-- The text of a snapshot. -/
def text (snapshot : Snapshot) : String :=
  snapshot.toJson.render

/-- The snapshot that a text holds. -/
def read? (text : String) : Option Snapshot := do
  ofJson? Json.depthLimit (← Json.read? text)

end Snapshot

end EntityStore
