import EntityStore.Value.Basic

/-! The schema of a store: the entities with their attributes and the relationships between them.
-/

namespace EntityStore

/-- What happens to the members of a relation when its owner is deleted. -/
inductive DeleteRule where
  /-- They are deleted too. -/
  | cascade
  /-- They stay. -/
  | nullify
  deriving DecidableEq, Repr

/-- An attribute of an entity. -/
structure AttributeDescriptor where
  name : String
  attributeType : AttributeType
  optional : Bool
  defaultValue : Option Value
  isArray : Bool
  deriving DecidableEq, Repr

/-- A relationship of an entity; a limit of zero is no limit. -/
structure RelationshipDescriptor where
  name : String
  destination : String
  maxCount : UInt64
  deleteRule : DeleteRule
  deriving DecidableEq, Repr

/-- An entity with its attributes and relationships in the order of their declaration. -/
structure EntityDescriptor where
  name : String
  attributes : List AttributeDescriptor
  relationships : List RelationshipDescriptor
  deriving DecidableEq, Repr

/-- All entities of a model. -/
structure Schema where
  modelName : String
  entities : List EntityDescriptor
  deriving DecidableEq, Repr

namespace AttributeType

/-- The value that a new record has for an attribute of the type. -/
def defaultValue? : AttributeType → Option Value
  | integer => some (.integer 0)
  | string => some (.string "")
  | float => some (.float .zero)
  | double => some (.double .zero)
  | boolean => none
  | timestamp => none

end AttributeType

namespace AttributeDescriptor

/-- An attribute with the default of its type. Only whole numbers are required by default. -/
def new (name : String) (attributeType : AttributeType) : AttributeDescriptor :=
  { name
    attributeType
    optional := attributeType ≠ .integer
    defaultValue := attributeType.defaultValue?
    isArray := false }

/-- The attribute made optional. -/
def asOptional (attributeDescriptor : AttributeDescriptor) : AttributeDescriptor :=
  { attributeDescriptor with optional := true }

/-- The attribute made a list, which is optional and starts without a value. -/
def asArray (attributeDescriptor : AttributeDescriptor) : AttributeDescriptor :=
  { attributeDescriptor with isArray := true, optional := true, defaultValue := none }

end AttributeDescriptor

namespace RelationshipDescriptor

/-- The relationship can hold more than one member. -/
def isToMany (relationship : RelationshipDescriptor) : Bool :=
  relationship.maxCount ≠ 1

end RelationshipDescriptor

namespace EntityDescriptor

/-- An entity without attributes and relationships. -/
def new (name : String) : EntityDescriptor :=
  ⟨name, [], []⟩

/-- The entity with one more attribute. -/
def addAttribute (entity : EntityDescriptor) (added : AttributeDescriptor) : EntityDescriptor :=
  { entity with attributes := entity.attributes ++ [added] }

/-- The entity with one more relationship. -/
def relate (entity : EntityDescriptor) (destination name : String) (maxCount : UInt64)
    (deleteRule : DeleteRule)
    : EntityDescriptor :=
  { entity with
    relationships := entity.relationships ++ [{ name, destination, maxCount, deleteRule }] }

/-- The first attribute of a name. -/
def attribute? (entity : EntityDescriptor) (name : String) : Option AttributeDescriptor :=
  entity.attributes.find? (·.name = name)

/-- The first relationship of a name. -/
def relationship? (entity : EntityDescriptor) (name : String) : Option RelationshipDescriptor :=
  entity.relationships.find? (·.name = name)

/-- The keys of the relationships whose members are deleted with their owner. -/
def cascadingKeys (entity : EntityDescriptor) : List String :=
  (entity.relationships.filter (·.deleteRule = .cascade)).map (·.name)

end EntityDescriptor

/-- The first entity of a name. -/
def Schema.entity? (schema : Schema) (name : String) : Option EntityDescriptor :=
  schema.entities.find? (·.name = name)

end EntityStore
