import EntityStore.Exchange.Value
import EntityStore.Schema.Json

/-! Exchange documents of schemas, as they are declared. -/

namespace EntityStore.Exchange

/-- The attribute of a declaration. -/
def readAttribute? (json : Json) : Option AttributeDescriptor := do
  let attributeType ← AttributeType.ofName? (← json.textAt? "type")
  let plain := AttributeDescriptor.new (← json.textAt? "name") attributeType
  let plain := if ← json.flagAt? "optional" then plain.asOptional else plain
  return if ← json.flagAt? "array" then plain.asArray else plain

/-- An entity with the relationship of a declaration. -/
def relate? (entity : EntityDescriptor) (json : Json) : Option EntityDescriptor := do
  let rule ← match json.member "rule" with
    | .null => some DeleteRule.cascade
    | rule => do DeleteRule.ofName? (← rule.toText?)
  return entity.relate (← json.textAt? "to") (← json.textAt? "name")
    (← (json.member "max").toUInt64?) rule

/-- The entity of a declaration. -/
def readEntity? (json : Json) : Option EntityDescriptor := do
  let attributes ← (← (json.member "attributes").elementsOrNone?).mapM readAttribute?
  (← (json.member "relations").elementsOrNone?).foldlM relate?
    (attributes.foldl EntityDescriptor.addAttribute (.new (← json.textAt? "name")))

/-- The schema of a declaration. -/
def readSchema? (json : Json) : Option Schema := do
  return {
    modelName := ← json.textAt? "model"
    entities := ← (← (json.member "entities").elements?).mapM readEntity?
  }

/-- The document of an attribute. -/
def writeAttribute (descriptor : AttributeDescriptor) : Json :=
  .array
    [.text descriptor.name, .text descriptor.attributeType.name, .bool descriptor.optional,
      .bool descriptor.isArray, writeSlot descriptor.defaultValue]

/-- The document of a relationship. -/
def writeRelationship (relationship : RelationshipDescriptor) : Json :=
  .array
    [.text relationship.name, .text relationship.destination, .bool relationship.isToMany]

/-- The document of an entity. -/
def writeEntity (entity : EntityDescriptor) : Json :=
  .record
    [("name", .text entity.name),
      ("attributes", .array (entity.attributes.map writeAttribute)),
      ("edges", .array (entity.relationships.map writeRelationship))]

/-- The document of what stands under a name in an entity. -/
def writeLookup (member : String) (entity : EntityDescriptor) : Json :=
  .record
    [("attributes", .ofInt entity.attributes.length),
      ("attribute", .ofOption ((entity.attribute? member).map (fun descriptor =>
        .array [.text descriptor.attributeType.name, .bool descriptor.isArray]))),
      ("relationship", .ofOption ((entity.relationship? member).map (fun relationship =>
        .array [.text relationship.destination, .ofInt relationship.maxCount.toNat])))]

end EntityStore.Exchange
