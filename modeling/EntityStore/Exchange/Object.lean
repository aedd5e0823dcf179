import EntityStore.Entity.Mapping
import EntityStore.Exchange.Field

/-! Exchange documents of objects: one member for each field, under the key of the field. -/

namespace EntityStore.Exchange

/-- The content of members in a document. -/
def readMembers? (readObject? : Json → Option Object) (shape : Shape) (json : Json)
    : Option Content := do
  match ← readShaped? readObject? shape json with
  | .one object => return .members true [object]
  | .option object => return .members true object.toList
  | .many objects => return .members true objects
  | .optionMany none => return .members false []
  | .optionMany (some objects) => return .members true objects

/-- The object of an entity type in a document that is nested at most to a depth. -/
def readObjectWithin? (model : Model) : Nat → String → Json → Option Object
  | depth + 1, entity, .object members => do
      let contents ← (model.entity entity).fields.mapM (fun field =>
        let json := (Json.object members).member field.key
        match field.kind with
        | .scalar type => (readShaped? (readScalar? type) field.shape json).map Content.scalar
        | .textual type => (readShaped? (readTextual? type) field.shape json).map Content.textual
        | .reference target =>
            readMembers? (readObjectWithin? model depth target) field.shape json)
      return .mk contents
  | _, _, _ => none

/-- The object of an entity type in a document. -/
def readObject? (model : Model) (entity : String) (json : Json) : Option Object :=
  readObjectWithin? model Json.depthLimit entity json

/-- The objects of an entity type in a document. -/
def readObjects? (model : Model) (entity : String) (json : Json) : Option (List Object) := do
  (← json.elements?).mapM (readObject? model entity)

/-- The document of members of a shape. -/
def writeMembers (shape : Shape) (present : Bool) (objects : List Json) : Json :=
  if shape.list then (if present then .array objects else .null)
  else .ofOption objects.head?

mutual
/-- The document of an object. -/
def writeObject (model : Model) (entity : String) : Object → Json
  | .mk contents => .record (writeContents model (model.entity entity).fields contents)

/-- The members for the contents of fields. -/
def writeContents (model : Model) : List Field → List Content → List (String × Json)
  | field :: fields, content :: contents =>
      (field.key, writeContent model field content) :: writeContents model fields contents
  | _, _ => []

/-- The document of the content of a field. -/
def writeContent (model : Model) (field : Field) : Content → Json
  | .scalar content => writeShaped writeScalar content
  | .textual content =>
      match field.kind with
      | .textual type => writeShaped (writeTextual type) content
      | _ => .null
  | .members present objects =>
      match field.kind with
      | .reference target => writeMembers field.shape present (writeAll model target objects)
      | _ => .null

/-- The documents of objects. -/
def writeAll (model : Model) (entity : String) : List Object → List Json
  | [] => []
  | object :: objects => writeObject model entity object :: writeAll model entity objects
end

/-- The document of objects. -/
def writeObjects (model : Model) (entity : String) (objects : List Object) : Json :=
  .array (writeAll model entity objects)

/-- The document of a mapping error. -/
def writeMappingError (error : MappingError) : Json :=
  let name := match error with
    | .coercion _ _ => "Coercion"
    | .missingRelation _ _ => "MissingRelation"
    | .missingRecord _ => "MissingRecord"
  .record
    [("error", .text name),
      ("message", .text error.message),
      ("is_coercion", .bool (name = "Coercion")),
      ("is_missing_relation", .bool (name = "MissingRelation"))]

end EntityStore.Exchange
