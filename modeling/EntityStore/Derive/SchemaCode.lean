import EntityStore.Derive.Code
import EntityStore.Derive.Service

/-! The schema of a service as code.
The code describes every entity with its attributes first and relates the entities afterwards,
because a relation needs the descriptions of both of its ends. A description is kept in a variable
that is named after the structure; there is no code when that is no name.
-/

namespace EntityStore.Derive

open Source

/-- The description of an attribute. -/
structure AttributeDescription where
  key : String
  type : AttributeType
  optional : Bool
  list : Bool
  deriving DecidableEq, Repr

/-- The description of an entity. -/
structure EntityDescription where
  /-- The variable that keeps the description. -/
  binding : String
  name : String
  /-- The description is changed by relations. -/
  isMutable : Bool
  attributes : List AttributeDescription
  deriving DecidableEq, Repr

/-- A relation between described entities. -/
structure RelationDescription where
  source : String
  destination : String
  /-- Both ends are the same description. -/
  toItself : Bool
  key : String
  /-- The greatest number of members, or zero for no limit. -/
  maxCount : Nat
  deleteRule : DeleteRule
  deriving DecidableEq, Repr

/-- A schema as code describes it. -/
structure SchemaDescription where
  model : String
  entities : List EntityDescription
  relations : List RelationDescription
  deriving DecidableEq, Repr

/-- The variable for an entity whose structure has a name. -/
def bindingOf? (typeName : String) : Option String :=
  nameOf? (Text.snakeCase typeName)

namespace FieldDeclaration

/-- The description of a scalar field. -/
def attributeDescription? (field : FieldDeclaration) : Option AttributeDescription :=
  field.type.scalar?.map fun type =>
    { key := field.key
      type
      optional := field.type.shape.optional && !field.type.shape.list
      list := field.type.shape.list }

end FieldDeclaration

namespace EntityDeclaration

/-- The description of an entity. -/
def description? (entity : EntityDeclaration) : Option EntityDescription := do
  return {
    binding := ← bindingOf? entity.typeName
    name := entity.name
    isMutable := !entity.relationships.isEmpty
    attributes := entity.attributes.filterMap (·.attributeDescription?) }

end EntityDeclaration

/-- The relation of a field of an entity to another entity. -/
def relationDescription? (entity : EntityDeclaration) (field : FieldDeclaration)
    (target : EntityDeclaration)
    : Option RelationDescription := do
  return {
    source := ← bindingOf? entity.typeName
    destination := ← bindingOf? target.typeName
    toItself := target.typeName = entity.typeName
    key := field.key
    maxCount := if field.type.shape.list then 0 else 1
    deleteRule := field.relation.deleteRule }

namespace ServiceDeclaration

/-- The entity of the service that a field refers to. -/
def targetOf? (service : ServiceDeclaration) (field : FieldDeclaration)
    : Option EntityDeclaration := do
  service.entity? (← field.type.target?)

/-- The relations of an entity. -/
def relationsOf? (service : ServiceDeclaration) (entity : EntityDeclaration)
    : Option (List RelationDescription) :=
  (entity.relationships.filterMap fun field => (service.targetOf? field).map (field, ·)).mapM
    fun (field, target) => relationDescription? entity field target

/-- The description of the schema of a service. -/
def schemaDescription? (service : ServiceDeclaration) : Option SchemaDescription := do
  return {
    model := service.model
    entities := ← service.entities.mapM (·.description?)
    relations := (← service.entities.mapM service.relationsOf?).flatten }

end ServiceDeclaration

/-- The name of a type of attributes. -/
def attributeTypeName : AttributeType → String
  | .boolean => "Boolean"
  | .integer => "Integer"
  | .float => "Float"
  | .double => "Double"
  | .string => "String"
  | .timestamp => "Timestamp"

/-- A type of attributes. -/
def attributeTypeCode (type : AttributeType) : List Token :=
  runtime ("AttributeType :: " ++ attributeTypeName type)

/-- The name of a rule of deletion. -/
def deleteRuleName : DeleteRule → String
  | .cascade => "Cascade"
  | .nullify => "Nullify"

/-- The name between a mark and a call without arguments. -/
def modifierCode (present : Bool) (name : String) : List Token :=
  if present then callCode (code "." ++ nameCode name) [] else []

namespace AttributeDescription

/-- The call that adds the attribute to a description. -/
def descriptionCode (description : AttributeDescription) : List Token :=
  let new := callCode (runtime "AttributeDescriptor :: new")
    [textCode description.key, attributeTypeCode description.type]
  callCode (code ". attribute")
    [new ++ modifierCode description.optional "optional" ++ modifierCode description.list "array"]

end AttributeDescription

namespace EntityDescription

/-- The statement that describes an entity. -/
def descriptionCode (description : EntityDescription) : List Token :=
  code (if description.isMutable then "let mut" else "let") ++ nameCode description.binding
    ++ code "=" ++ callCode (runtime "EntityDescriptor :: new") [textCode description.name]
    ++ description.attributes.flatMap (·.descriptionCode) ++ code ";"

end EntityDescription

namespace RelationDescription

/-- The statement that relates two entities. -/
def relationCode (description : RelationDescription) : List Token :=
  let destination := code "&" ++ nameCode description.destination
    ++ modifierCode description.toItself "clone"
  let maxCount := toString description.maxCount ++ "usize"
  callCode (nameCode description.source ++ code ". relate")
    [destination, textCode description.key, [.literal maxCount],
      runtime ("DeleteRule :: " ++ deleteRuleName description.deleteRule)]
  ++ code ";"

end RelationDescription

namespace SchemaDescription

/-- The constant with the name of the model, and the function that makes the schema. -/
def schemaCode (description : SchemaDescription) : List Token :=
  let bindings := description.entities.map fun entity => nameCode entity.binding
  let entities := code ":: std :: vec !" ++ [brackets (commaSeparated bindings)]
  let schema := callCode (runtime "Schema :: new") [code "MODEL_NAME", entities]
  fixedDocCode " Model name of this service group."
    ++ code "pub const MODEL_NAME : & str =" ++ textCode description.model ++ code ";"
    ++ fixedDocCode " Persistence schema of every entity in this module." ++ mustUseCode
    ++ callCode (code "pub fn schema") [] ++ code "->" ++ runtime "Schema"
    ++ [braces (description.entities.flatMap (·.descriptionCode)
        ++ description.relations.flatMap (·.relationCode) ++ schema)]

end SchemaDescription

end EntityStore.Derive
