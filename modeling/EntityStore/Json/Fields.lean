import EntityStore.Json.Numeral
import EntityStore.Table

/-! Reading structures out of documents.
A structure may stand in a document as an object, where unknown members are passed over and the
order does not matter, or as an array of its fields in order. No member that is read may stand
twice. What is read may be nested only to a certain depth; what is passed over may be of any depth.
-/

namespace EntityStore.Json

open Std

/-- How many arrays and objects may enclose each other in what is read. -/
def depthLimit : Nat := 127

mutual
/-- A document that can be read as a whole, whatever it is read as: its strings have content,
its numbers are in range, and it is not nested too deeply. -/
def isReadable : Nat → Json → Bool
  | _, .null => true
  | _, .bool _ => true
  | _, .number literal => (Numeral.ofLiteral? literal).isSome
  | _, .string content => content.isSome
  | 0, .array _ => false
  | 0, .object _ => false
  | depth + 1, .array elements => allReadable depth elements
  | depth + 1, .object members => membersReadable depth members

/-- All documents of a list can be read. -/
def allReadable : Nat → List Json → Bool
  | _, [] => true
  | depth, element :: rest => isReadable depth element && allReadable depth rest

/-- All members can be read. -/
def membersReadable : Nat → List (Option String × Json) → Bool
  | _, [] => true
  | depth, (key, value) :: rest =>
      key.isSome && isReadable depth value && membersReadable depth rest
end

/-- The content of a string. -/
def toText? : Json → Option String
  | .string content => content
  | _ => none

/-- A truth value. -/
def toBool? : Json → Option Bool
  | .bool value => some value
  | _ => none

/-- A part that may be nothing. -/
def toOption? (read : Json → Option α) : Json → Option (Option α)
  | .null => some none
  | json => (read json).map some

/-- The parts of an array one level down. -/
def toList? (depth : Nat) (read : Nat → Json → Option α) : Json → Option (List α)
  | .array elements =>
      match depth with
      | 0 => none
      | depth + 1 => elements.mapM (read depth)
  | _ => none

/-- The members of an object one level down, where the last member of a key counts. -/
def toTable? (depth : Nat) (read : Nat → Json → Option α) : Json → Option (Table String α)
  | .object members =>
      match depth with
      | 0 => none
      | depth + 1 => do
          let entries ← members.mapM (fun (key, value) => do return (← key, ← read depth value))
          return Table.ofList entries
  | _ => none

/-- The name of a choice without content, written as a string or as the one member of an object
that holds nothing. -/
def toChoice? (depth : Nat) : Json → Option String
  | .string content => content
  | .object [(key, .null)] => if 0 < depth then key else none
  | _ => none

/-- The fields of a structure as a document holds them. In an array a field that is left out is
different from one that holds nothing. -/
structure Fields where
  byName : Bool
  values : List (Option Json)

/-- The one value of a key, if it stands in the members. -/
def member? (key : String) (members : List (String × Json)) : Option (Option Json) :=
  match members.filter (fun member => member.1 = key) with
  | [] => some none
  | [member] => some (some member.2)
  | _ => none

/-- The fields of the given names. -/
def toFields? (depth : Nat) (names : List String) : Json → Option Fields
  | .object members => do
      let members ← members.mapM (fun (key, value) => key.map (·, value))
      let values ← names.mapM (fun name => member? name members)
      if depth = 0 then none else some { byName := true, values }
  | .array elements =>
      if depth = 0 ∨ names.length < elements.length then none
      else
        let missing := names.length - elements.length
        some { byName := false, values := elements.map some ++ List.replicate missing none }
  | _ => none

namespace Fields

/-- The field at a position, if the document holds it. -/
def value? (fields : Fields) (position : Nat) : Option Json :=
  (fields.values[position]?).join

/-- A field that has to be there. -/
def required? (fields : Fields) (position : Nat) (read : Json → Option α) : Option α :=
  (fields.value? position).bind read

/-- A field that may hold nothing. It may be left out of an object. -/
def optional? (fields : Fields) (position : Nat) (read : Json → Option α) : Option (Option α) :=
  match fields.value? position with
  | some json => toOption? read json
  | none => if fields.byName then some none else none

/-- A field that may be left out and then has a value of its own. -/
def defaulted? (fields : Fields) (position : Nat) (default : α) (read : Json → Option α)
    : Option α :=
  match fields.value? position with
  | some json => read json
  | none => some default

end Fields

end EntityStore.Json
