import EntityStore.Json.Member
import EntityStore.Number.Word
import EntityStore.Record.Basic

/-! Exchange documents of values and records.
In an exchange document a value is an object with one member that names its kind. Floating point
numbers keep their bits, and an absent value is written as nothing.
-/

namespace EntityStore.Exchange

open Json

/-- The point in time of seconds and nanoseconds. -/
def readTimestamp? (json : Json) : Option Timestamp := do
  match ← json.elements? with
  | [seconds, nanos] =>
      let nanos ← nanos.toInt?
      if 0 ≤ nanos then Timestamp.ofUnix? (← seconds.toInt?) nanos.toNat else none
  | _ => none

/-- The document of a point in time. -/
def writeTimestamp (t : Timestamp) : Json :=
  .array [.ofInt t.seconds, .ofInt t.nanos]

/-- The value of a kind that is no list. -/
def readPlain? (kind : String) (content : Json) : Option Value := do
  match kind with
  | "b" => return .bool (← content.toBool?)
  | "i" => return .integer (← content.toInt64?)
  | "f" => return .float (← Number.Single.ofWordText? (← content.toText?))
  | "d" => return .double (← Number.Double.ofWordText? (← content.toText?))
  | "s" => return .string (← content.toText?)
  | "t" => return .timestamp (← readTimestamp? content)
  | _ => none

/-- The value of a document that is nested at most to a depth. -/
def readValueWithin? : Nat → Json → Option Value
  | 0, _ => none
  | depth + 1, .object [(some "l", items)] => do
      return .list (← (← items.elements?).mapM (readValueWithin? depth))
  | _ + 1, .object [(some kind, content)] => readPlain? kind content
  | _ + 1, _ => none

/-- The value of a document. -/
def readValue? (json : Json) : Option Value :=
  readValueWithin? depthLimit json

/-- The slot of a document. -/
def readSlot? (json : Json) : Option (Option Value) :=
  json.toOption? readValue?

mutual
/-- The document of a value. -/
def writeValue : Value → Json
  | .bool b => .record [("b", .bool b)]
  | .integer i => .record [("i", .ofInt i.toInt)]
  | .float x => .record [("f", .text x.wordText)]
  | .double x => .record [("d", .text x.wordText)]
  | .string s => .record [("s", .text s)]
  | .timestamp t => .record [("t", writeTimestamp t)]
  | .list items => .record [("l", .array (writeValues items))]

/-- The documents of values. -/
def writeValues : List Value → List Json
  | [] => []
  | value :: rest => writeValue value :: writeValues rest
end

/-- The document of a slot. -/
def writeSlot (slot : Option Value) : Json :=
  .ofOption (slot.map writeValue)

/-- The identifier of a document. -/
def readId? (json : Json) : Option ObjectId :=
  json.toUInt64?.map ObjectId.mk

/-- The identifiers of a document. -/
def readIds? (json : Json) : Option (List ObjectId) := do
  (← json.elements?).mapM readId?

/-- The document of an identifier. -/
def writeId (id : ObjectId) : Json :=
  .ofInt id.number.toNat

/-- The document of identifiers. -/
def writeIds (ids : List ObjectId) : Json :=
  .array (ids.map writeId)

/-- The record of a document under an identifier. -/
def readRecord? (id : ObjectId) (json : Json) : Option Record := do
  let entity ← match json.member "entity" with
    | .null => some "Item"
    | entity => entity.toText?
  let record ← (← (json.member "attributes").membersOrNone?).foldlM
    (fun record (key, value) => do return record.setValue key (← readSlot? value))
    (Record.new id entity)
  (← (json.member "relations").membersOrNone?).foldlM
    (fun record (key, ids) => do return record.setRelated key (← readIds? ids)) record

/-- The document of a record. -/
def writeRecord (record : Record) : Json :=
  .record
    [("id", writeId record.id),
      ("entity", .text record.entity),
      ("attributes",
        .record (record.attributes.entries.map (fun entry => (entry.1, writeValue entry.2)))),
      ("relations",
        .record (record.relations.entries.map (fun entry => (entry.1, writeIds entry.2))))]

end EntityStore.Exchange
