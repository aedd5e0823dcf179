import EntityStore.Derive.Code
import EntityStore.Derive.Entity

/-! How the fields of entities are written to records and read back.
Every stored field has one write and one read, which agree on the key, on how the items are
represented and on the shape. A field that is not stored has no write, and is read as a default.
-/

namespace EntityStore.Derive

open Source

/-- How the items of a stored field are represented. -/
inductive Representation where
  /-- As values of their own type. -/
  | value
  /-- As the texts of the items. -/
  | text
  /-- As records of their own. -/
  | records
  deriving DecidableEq, Repr

namespace FieldKind

/-- How the items of a field of a kind are represented. -/
def representation : FieldKind → Representation
  | scalar _ => .value
  | textual => .text
  | reference _ => .records

end FieldKind

/-- How a field is read from a record. -/
inductive FieldRead where
  /-- The field is not stored. -/
  | default
  | stored (key : String) (representation : Representation) (shape : Shape)
  deriving DecidableEq, Repr

/-- How a stored field is written to a record. -/
structure FieldWrite where
  key : String
  representation : Representation
  shape : Shape
  /-- Members that leave the relation are deleted. -/
  deleteOld : Bool
  deriving DecidableEq, Repr

namespace FieldDeclaration

/-- How the field is read. -/
def read (field : FieldDeclaration) : FieldRead :=
  if field.skipped then .default
  else .stored field.key field.type.kind.representation field.type.shape

/-- How the field is written, if it is stored. -/
def write? (field : FieldDeclaration) : Option FieldWrite :=
  if field.skipped then none
  else some
    { key := field.key
      representation := field.type.kind.representation
      shape := field.type.shape
      deleteOld := !field.relation.keepOrphans }

end FieldDeclaration

/-- A presence of something. -/
def someCode (contents : List Token) : List Token :=
  callCode (code ":: core :: option :: Option :: Some") [contents]

/-- The absence of anything. -/
def noneCode : List Token :=
  code ":: core :: option :: Option :: None"

/-- The value that a record has for a key. -/
def recordValue (key : String) : List Token :=
  callCode (code "record . value") [textCode key]

/-- What is read, or an error that names the key. -/
def orCoercion (key : String) (read : List Token) : List Token :=
  let coercion :=
    callCode (runtime "MappingError :: coercion") [code "Self :: ENTITY_NAME", textCode key]
  callCode (read ++ code ". ok_or") [coercion] ++ code "?"

/-- A list of texts that may be absent as a whole. -/
def optionalTextsCode (key : String) : List Token :=
  let decoded := orCoercion key (callCode (runtime "opaque :: decode_list") [code "stored"])
  code "match" ++ recordValue key
    ++ [braces (noneCode ++ code "=>" ++ noneCode ++ code "," ++ code "stored =>"
      ++ someCode decoded)]

namespace FieldRead

/-- The expression that reads a field. -/
def readCode : FieldRead → List Token
  | default => callCode (code ":: core :: default :: Default :: default") []
  | stored key .value _ =>
      orCoercion key (callCode (runtime "AttributeValue :: from_attribute") [recordValue key])
  | stored key .text ⟨false, false⟩ =>
      orCoercion key (callCode (runtime "opaque :: decode") [recordValue key])
  | stored key .text ⟨true, false⟩ =>
      orCoercion key (callCode (runtime "opaque :: decode_optional") [recordValue key])
  | stored key .text ⟨false, true⟩ =>
      orCoercion key (callCode (runtime "opaque :: decode_list") [recordValue key])
  | stored key .text ⟨true, true⟩ => optionalTextsCode key
  | stored key .records ⟨false, false⟩ =>
      callCode (runtime "map_required")
        [code "record", code "source", code "Self :: ENTITY_NAME", textCode key]
      ++ code "?"
  | stored key .records ⟨true, false⟩ =>
      callCode (runtime "map_optional") [code "record", code "source", textCode key]
  | stored key .records ⟨false, true⟩ =>
      callCode (runtime "map_many") [code "record", code "source", textCode key]
  | stored key .records ⟨true, true⟩ =>
      someCode (callCode (runtime "map_many") [code "record", code "source", textCode key])

end FieldRead

/-- The body of the function that reads an entity. -/
def EntityDeclaration.readCode (entity : EntityDeclaration) : List Token :=
  let initializers := entity.fields.map fun field =>
    nameCode field.name ++ code ":" ++ field.read.readCode
  callCode (code ":: core :: result :: Result :: Ok")
    [code "Self" ++ [braces (commaSeparated initializers)]]

/-- The content of a field of an object. -/
def fieldCode (name : String) : List Token :=
  code "self ." ++ nameCode name

/-- A reference to the content of a field of an object. -/
def fieldReference (name : String) : List Token :=
  code "&" ++ fieldCode name

namespace FieldWrite

/-- The value that an attribute is set to, for a field of a name. -/
def attributeCode (name : String) : Representation → Shape → List Token
  | .value, _ => callCode (runtime "AttributeValue :: to_attribute") [fieldReference name]
  | _, ⟨false, false⟩ => callCode (runtime "opaque :: encode") [fieldReference name]
  | _, ⟨true, false⟩ => callCode (runtime "opaque :: encode_optional") [fieldReference name]
  | _, ⟨false, true⟩ => callCode (runtime "opaque :: encode_list") [fieldReference name]
  | _, ⟨true, true⟩ =>
      callCode (callCode (fieldCode name ++ code ". as_deref") [] ++ code ". and_then")
        [runtime "opaque :: encode_list"]

/-- The members that a relation is set to, for a field of a name. -/
def membersCode (name : String) : Shape → List Token
  | ⟨false, false⟩ => someCode (fieldReference name)
  | ⟨true, false⟩ => callCode (fieldCode name ++ code ". as_ref") []
  | ⟨false, true⟩ => fieldReference name
  | ⟨true, true⟩ =>
      callCode (callCode (fieldCode name ++ code ". as_deref") [] ++ code ". unwrap_or")
        [code "&" ++ [brackets []]]

/-- The statement that writes a field of a name. -/
def writeCode (name : String) (write : FieldWrite) : List Token :=
  match write.representation with
  | .records =>
      let store := if write.shape.list then "store_many" else "store_one"
      callCode (runtime store)
        [code "context", code "object", textCode write.key, membersCode name write.shape,
          flagCode write.deleteOld]
      ++ code ";"
  | representation =>
      callCode (code "context . set_value")
        [code "object", textCode write.key, attributeCode name representation write.shape]
      ++ code ";"

end FieldWrite

/-- The body of the function that writes an entity. -/
def EntityDeclaration.writeCode (entity : EntityDeclaration) : List Token :=
  entity.fields.flatMap fun field =>
    match field.write? with
    | some write => FieldWrite.writeCode field.name write
    | none => []

end EntityStore.Derive
