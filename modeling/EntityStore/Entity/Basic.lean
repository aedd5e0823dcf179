import EntityStore.Field.Scalar
import EntityStore.Field.Textual
import EntityStore.Schema.Basic

/-! Entity types: how the objects of an application are stored as records.
An entity type lists its fields. A scalar or textual field is an attribute of the record, and a
field that refers to another entity type is a relation. An attribute or a relation has the key of
its field.
-/

namespace EntityStore

/-- What the items of a field are. -/
inductive FieldKind where
  | scalar (type : ScalarType)
  | textual (type : TextualType)
  | reference (entity : String)
  deriving DecidableEq, Repr

/-- A field of an entity type. -/
structure Field where
  key : String
  shape : Shape
  kind : FieldKind
  /-- The field identifies the object. -/
  isId : Bool
  /-- The field is not stored. -/
  skipped : Bool
  deleteRule : DeleteRule
  /-- Members that leave the relation stay in the store. -/
  keepOrphans : Bool
  deriving DecidableEq, Repr

namespace Field

/-- A field that is stored and follows the rules that nothing else is said about. -/
def new (key : String) (shape : Shape) (kind : FieldKind) : Field :=
  { key, shape, kind, isId := false, skipped := false, deleteRule := .cascade,
    keepOrphans := false }

/-- A field of one scalar. -/
def scalar (key : String) (type : ScalarType) : Field :=
  .new key .one (.scalar type)

/-- A field of one text. -/
def textual (key : String) (type : TextualType) : Field :=
  .new key .one (.textual type)

/-- The text that identifies an object. -/
def identifier (key : String) : Field :=
  { Field.scalar key .string with isId := true }

/-- The schema's attribute of a stored scalar field. -/
def attribute? (field : Field) : Option AttributeDescriptor :=
  match field.kind with
  | .scalar type =>
      if field.skipped then none
      else
        let plain := AttributeDescriptor.new field.key type.storage
        some (if field.shape.list then plain.asArray
          else if field.shape.optional then plain.asOptional
          else plain)
  | _ => none

/-- The schema's relationship of a stored field that refers to an entity type. -/
def relationship? (field : Field) : Option RelationshipDescriptor :=
  match field.kind with
  | .reference entity =>
      if field.skipped then none
      else some
        { name := field.key
          destination := entity
          maxCount := if field.shape.list then 0 else 1
          deleteRule := field.deleteRule }
  | _ => none

end Field

/-- An entity type: the name of its records, and its fields. -/
structure EntityType where
  name : String
  fields : List Field
  deriving DecidableEq, Repr

namespace EntityType

/-- The field that identifies objects of the type. -/
def idField? (entity : EntityType) : Option Field :=
  entity.fields.find? (·.isId)

/-- Objects of the type are told apart by an identifier. -/
def isIdentifiable (entity : EntityType) : Bool :=
  entity.idField?.isSome

/-- The schema's entity of the type. -/
def descriptor (entity : EntityType) : EntityDescriptor :=
  { name := entity.name
    attributes := entity.fields.filterMap Field.attribute?
    relationships := entity.fields.filterMap Field.relationship? }

end EntityType

/-- The entity types of an application under the name of their model. -/
structure Model where
  name : String
  entities : List EntityType
  deriving DecidableEq, Repr

namespace Model

/-- The entity type of a name. A name that the model does not know stands for a type without
fields. -/
def entity (model : Model) (name : String) : EntityType :=
  (model.entities.find? (·.name = name)).getD ⟨name, []⟩

/-- The schema of the entity types. -/
def schema (model : Model) : Schema :=
  { modelName := model.name, entities := model.entities.map EntityType.descriptor }

end Model

end EntityStore
