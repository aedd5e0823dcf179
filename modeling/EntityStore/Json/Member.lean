import EntityStore.Json.Numeral
import EntityStore.Json.Fields

/-! Looking into documents whose members may be left out. -/

namespace EntityStore.Json

/-- A member of an object. What is left out reads as nothing. -/
def member (json : Json) (key : String) : Json :=
  match json with
  | .object members =>
      ((members.find? (fun member => member.1 = some key)).map (·.2)).getD .null
  | _ => .null

/-- The text of a member. -/
def textAt? (json : Json) (key : String) : Option String :=
  (json.member key).toText?

/-- The truth value of a member, false where it is left out. -/
def flagAt? (json : Json) (key : String) : Option Bool :=
  match json.member key with
  | .null => some false
  | member => member.toBool?

/-- The elements of an array. -/
def elements? : Json → Option (List Json)
  | .array elements => some elements
  | _ => none

/-- The elements of an array that may be left out. -/
def elementsOrNone? : Json → Option (List Json)
  | .null => some []
  | json => json.elements?

/-- The members of an object that may be left out. -/
def membersOrNone? : Json → Option (List (String × Json))
  | .null => some []
  | .object members => members.mapM (fun (key, value) => key.map (·, value))
  | _ => none

/-- A whole number. -/
def toInt? (json : Json) : Option Int := do
  (← json.numeral?).toInt?

/-- The document of a part that may be missing. -/
def ofOption (json? : Option Json) : Json :=
  json?.getD .null

end EntityStore.Json
