import EntityStore.Json.Fields
import EntityStore.Timestamp.Reader
import EntityStore.Value.Basic

/-! Values in documents.
A value is written with its kind and its content. Numbers that are not finite have no written form
and leave the content empty, so such a value cannot be read again.
-/

namespace EntityStore.Value

open Number

/-- A document of a kind and a content. -/
def tagged (kind : String) (content : Json) : Json :=
  .record [("type", .text kind), ("value", content)]

mutual
/-- The document of a value. -/
def toJson : Value → Json
  | .bool b => tagged "bool" (.bool b)
  | .integer i => tagged "integer" (.ofInt i.toInt)
  | .float x => tagged "float" (.ofSingle x)
  | .double x => tagged "double" (.ofDouble x)
  | .string s => tagged "string" (.text s)
  | .timestamp t => tagged "timestamp" (.text t.dataText)
  | .list items => tagged "list" (.array (allToJson items))

/-- The documents of values. -/
def allToJson : List Value → List Json
  | [] => []
  | item :: rest => item.toJson :: allToJson rest
end

/-- The kinds of values that a document names. -/
def kinds : List String :=
  ["bool", "integer", "float", "double", "string", "timestamp", "list"]

/-- The content of a value of a kind. -/
def readContent? (kind : String) (readItems : Json → Option (List Value)) (content : Json)
    : Option Value :=
  match kind with
  | "bool" => content.toBool?.map .bool
  | "integer" => content.toInt64?.map .integer
  | "float" => content.numeral?.map (fun n => .float n.toSingle)
  | "double" => content.numeral?.map (fun n => .double n.toDouble)
  | "string" => content.toText?.map .string
  | "timestamp" => do return .timestamp (← Timestamp.read? (← content.toText?))
  | "list" => (readItems content).map .list
  | _ => none

/-- The kind and the content of a value, where the content has to be readable by itself when it
stands before the kind that says what it is. -/
def tagAndContent? (depth : Nat) (json : Json) : Option (String × Json) := do
  let fields ← json.toFields? depth ["type", "value"]
  let kind ← fields.required? 0 (Json.toChoice? (depth - 1))
  let content ← fields.value? 1
  let contentFirst : Bool :=
    match json with
    | .object members =>
        (members.find? (fun member => member.1 = some "type" ∨ member.1 = some "value")).any
          (fun member => member.1 = some "value")
    | _ => false
  if contentFirst && !content.isReadable (depth - 1) then none else some (kind, content)

/-- The value of a document that is nested at most to a depth. -/
def ofJson? : Nat → Json → Option Value
  | depth, json => do
      let (kind, content) ← tagAndContent? depth json
      match depth with
      | 0 => none
      | 1 => readContent? kind (fun _ => none) content
      | depth + 2 => readContent? kind (Json.toList? (depth + 1) (fun _ => ofJson? depth)) content

end EntityStore.Value
