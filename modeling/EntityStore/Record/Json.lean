import EntityStore.Record.Basic
import EntityStore.Value.Json

/-! Records in documents. -/

namespace EntityStore

namespace ObjectId

/-- The document of an identifier. -/
def toJson (id : ObjectId) : Json :=
  .ofInt id.number.toNat

/-- The identifier of a document. -/
def ofJson? (json : Json) : Option ObjectId :=
  json.toUInt64?.map ObjectId.mk

end ObjectId

namespace Record

/-- The document of a record. -/
def toJson (record : Record) : Json :=
  .record
    [("id", record.id.toJson),
      ("entity", .text record.entity),
      ("attributes",
        .record (record.attributes.entries.map (fun entry => (entry.1, entry.2.toJson)))),
      ("relations",
        .record (record.relations.entries.map
          (fun entry => (entry.1, .array (entry.2.map ObjectId.toJson)))))]

/-- The record of a document; the relations may be left out. -/
def ofJson? (depth : Nat) (json : Json) : Option Record := do
  let fields ← json.toFields? depth ["id", "entity", "attributes", "relations"]
  let inner := depth - 1
  let id ← fields.required? 0 ObjectId.ofJson?
  let entity ← fields.required? 1 Json.toText?
  let attributes ← fields.required? 2 (Json.toTable? inner Value.ofJson?)
  let relations ←
    fields.defaulted? 3 Table.empty
      (Json.toTable? inner (fun depth => Json.toList? depth (fun _ => ObjectId.ofJson?)))
  return { id, entity, attributes, relations }

end Record

end EntityStore
