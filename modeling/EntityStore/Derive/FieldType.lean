import EntityStore.Field.Shape
import EntityStore.Source.TypeExpr

/-! What the type of a field says about its storage.
A type is unwrapped once from an option and then once from a list. The name at the end of what
remains decides the kind of the field.
-/

namespace EntityStore.Derive

open Source

/-- How a field is stored. -/
inductive FieldKind where
  /-- An attribute of its own type. -/
  | scalar (type : AttributeType)
  /-- A relation to the entity that a type of this name declares. -/
  | reference (target : String)
  /-- An attribute that holds the text of the items. -/
  | textual
  deriving DecidableEq, Repr

/-- A type of a field, taken apart. -/
structure FieldType where
  /-- The type of the items. -/
  element : TypeExpr
  shape : Shape
  kind : FieldKind
  deriving Repr

/-- The end of the names of entities. -/
def entitySuffix : String :=
  "Entity"

/-- The attribute type of a scalar type with a name. -/
def scalarOf? : String → Option AttributeType
  | "bool" => some .boolean
  | "i8" | "i16" | "i32" | "i64" | "u8" | "u16" | "u32" => some .integer
  | "f32" => some .float
  | "f64" => some .double
  | "String" => some .string
  | "DateTime" => some .timestamp
  | _ => none

/-- The kind of a field whose items have a type with the given name at its end. -/
def kindOfName (name : String) : FieldKind :=
  if entitySuffix.toList.isSuffixOf name.toList then .reference name
  else
    match scalarOf? name with
    | some type => .scalar type
    | none => .textual

/-- The kind of a field whose items have a type. -/
def kindOf (element : TypeExpr) : FieldKind :=
  match element.plainName? with
  | some name => kindOfName name
  | none => .textual

/-- A type without a wrapper, and whether it had one. -/
def unwrap (wrapper : String) (type : TypeExpr) : Bool × TypeExpr :=
  match type.argumentOf? wrapper with
  | some inner => (true, inner)
  | none => (false, type)

namespace FieldType

/-- The type of a field, taken apart. -/
def ofType (type : TypeExpr) : FieldType :=
  let (optional, rest) := unwrap "Option" type
  let (list, element) := unwrap "Vec" rest
  { element, shape := { optional, list }, kind := kindOf element }

/-- The scalar type of the items. -/
def scalar? (type : FieldType) : Option AttributeType :=
  match type.kind with
  | .scalar scalar => some scalar
  | _ => none

/-- The name of the entity that the items are. -/
def target? (type : FieldType) : Option String :=
  match type.kind with
  | .reference target => some target
  | _ => none

end FieldType

end EntityStore.Derive
