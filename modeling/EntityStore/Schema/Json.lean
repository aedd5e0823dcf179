import EntityStore.Schema.Basic
import EntityStore.Value.Json

/-! Schemas in documents. -/

namespace EntityStore

namespace DeleteRule

/-- The name of a delete rule. -/
def name : DeleteRule → String
  | cascade => "cascade"
  | nullify => "nullify"

/-- The delete rule of a name. -/
def ofName? (name : String) : Option DeleteRule :=
  [cascade, nullify].find? (fun rule => rule.name = name)

end DeleteRule

namespace AttributeDescriptor

/-- The document of an attribute. -/
def toJson (descriptor : AttributeDescriptor) : Json :=
  .record
    [("name", .text descriptor.name),
      ("attribute_type", .text descriptor.attributeType.name),
      ("optional", .bool descriptor.optional),
      ("default_value", (descriptor.defaultValue.map Value.toJson).getD .null),
      ("is_array", .bool descriptor.isArray)]

/-- The attribute of a document. -/
def ofJson? (depth : Nat) (json : Json) : Option AttributeDescriptor := do
  let fields ←
    json.toFields? depth ["name", "attribute_type", "optional", "default_value", "is_array"]
  let inner := depth - 1
  return {
    name := ← fields.required? 0 Json.toText?
    attributeType :=
      ← fields.required? 1 (fun json => do AttributeType.ofName? (← json.toChoice? inner))
    optional := ← fields.required? 2 Json.toBool?
    defaultValue := ← fields.optional? 3 (Value.ofJson? inner)
    isArray := ← fields.required? 4 Json.toBool?
  }

end AttributeDescriptor

namespace RelationshipDescriptor

/-- The document of a relationship. -/
def toJson (relationship : RelationshipDescriptor) : Json :=
  .record
    [("name", .text relationship.name),
      ("destination", .text relationship.destination),
      ("max_count", .ofInt relationship.maxCount.toNat),
      ("delete_rule", .text relationship.deleteRule.name)]

/-- The relationship of a document. -/
def ofJson? (depth : Nat) (json : Json) : Option RelationshipDescriptor := do
  let fields ← json.toFields? depth ["name", "destination", "max_count", "delete_rule"]
  return {
    name := ← fields.required? 0 Json.toText?
    destination := ← fields.required? 1 Json.toText?
    maxCount := ← fields.required? 2 Json.toUInt64?
    deleteRule :=
      ← fields.required? 3 (fun json => do DeleteRule.ofName? (← json.toChoice? (depth - 1)))
  }

end RelationshipDescriptor

namespace EntityDescriptor

/-- The document of an entity. -/
def toJson (entity : EntityDescriptor) : Json :=
  .record
    [("name", .text entity.name),
      ("attributes", .array (entity.attributes.map AttributeDescriptor.toJson)),
      ("relationships", .array (entity.relationships.map RelationshipDescriptor.toJson))]

/-- The entity of a document. -/
def ofJson? (depth : Nat) (json : Json) : Option EntityDescriptor := do
  let fields ← json.toFields? depth ["name", "attributes", "relationships"]
  let inner := depth - 1
  return {
    name := ← fields.required? 0 Json.toText?
    attributes := ← fields.required? 1 (Json.toList? inner AttributeDescriptor.ofJson?)
    relationships := ← fields.required? 2 (Json.toList? inner RelationshipDescriptor.ofJson?)
  }

end EntityDescriptor

namespace Schema

/-- The document of a schema. -/
def toJson (schema : Schema) : Json :=
  .record
    [("model_name", .text schema.modelName),
      ("entities", .array (schema.entities.map EntityDescriptor.toJson))]

/-- The schema of a document. -/
def ofJson? (depth : Nat) (json : Json) : Option Schema := do
  let fields ← json.toFields? depth ["model_name", "entities"]
  return {
    modelName := ← fields.required? 0 Json.toText?
    entities := ← fields.required? 1 (Json.toList? (depth - 1) EntityDescriptor.ofJson?)
  }

/-- The schema that a text holds. -/
def read? (text : String) : Option Schema := do
  ofJson? Json.depthLimit (← Json.read? text)

end Schema

end EntityStore
