import EntityStore.Derive.FieldType
import EntityStore.Derive.Options
import EntityStore.Schema.Basic
import EntityStore.Source.Declaration

/-! Fields of entities with their options.
Three attributes say more about a field than its type does: one marks the identifier, one leaves
the field out of the store, and one has the options of a relation.
-/

namespace EntityStore.Derive

open Source

/-- The options of a relation. -/
structure RelationOptions where
  deleteRule : DeleteRule
  /-- Members that leave the relation stay in the store. -/
  keepOrphans : Bool
  deriving DecidableEq, Repr

namespace RelationOptions

/-- The options that hold unless others are given. -/
def default : RelationOptions :=
  { deleteRule := .cascade, keepOrphans := false }

end RelationOptions

/-- A field of an entity. -/
structure FieldDeclaration where
  name : String
  declared : TypeExpr
  type : FieldType
  isId : Bool
  /-- The field is not stored. -/
  skipped : Bool
  relation : RelationOptions
  deriving Repr

namespace FieldDeclaration

/-- The key of the field in records. -/
def key (field : FieldDeclaration) : String :=
  field.name

/-- The field is an attribute of the schema. -/
def isAttribute (field : FieldDeclaration) : Bool :=
  !field.skipped && field.type.scalar?.isSome

/-- The field is a relationship of the schema. -/
def isRelationship (field : FieldDeclaration) : Bool :=
  !field.skipped && field.type.target?.isSome

end FieldDeclaration

/-- An option that leaves a field out of the store. -/
def takeFieldOption (_ : Bool) (name : AttributePath) : OptionParser Bool :=
  if name.isName "skip" then return true else throw .unknownFieldOption

/-- The field is left out of the store by an attribute. -/
def readSkip (self : Attribute) : Except Problem Bool :=
  readOptions takeFieldOption false self

/-- The rule that a text names. -/
def deleteRule? : String → Option DeleteRule
  | "cascade" => some .cascade
  | "nullify" => some .nullify
  | _ => none

/-- The options of a relation that have been read from one list. -/
structure RelationReading where
  deleteRule : Option DeleteRule
  keepOrphans : Bool

namespace RelationReading

/-- The options that have been read, where those that are missing have their defaults. -/
def options (reading : RelationReading) : RelationOptions :=
  { deleteRule := reading.deleteRule.getD RelationOptions.default.deleteRule
    keepOrphans := reading.keepOrphans }

end RelationReading

/-- An option of a relation, which is given once in a list at most. -/
def takeRelationOption (reading : RelationReading) (name : AttributePath)
    : OptionParser RelationReading := do
  if name.isName "delete_rule" then
    if reading.deleteRule.isSome then throw (.repeatedRelationOption "delete_rule")
    match deleteRule? (← textValue) with
    | some rule => return { reading with deleteRule := some rule }
    | none => throw .unknownDeleteRule
  else if name.isName "keep_orphans" then
    if reading.keepOrphans then throw (.repeatedRelationOption "keep_orphans")
    return { reading with keepOrphans := true }
  else throw .unknownRelationOption

/-- The options of a relation in an attribute. -/
def readRelation (self : Attribute) : Except Problem RelationOptions :=
  RelationReading.options <$> readOptions takeRelationOption ⟨none, false⟩ self

/-- A field that is being read, and the problems so far. -/
structure FieldReading where
  field : FieldDeclaration
  problems : List Problem

namespace FieldReading

/-- The reading with another problem. -/
def report (reading : FieldReading) (problem : Problem) : FieldReading :=
  { reading with problems := reading.problems ++ [problem] }

/-- The reading after an attribute that marks the identifier. -/
def takeId (reading : FieldReading) : FieldReading :=
  let type := reading.field.type
  let marked := { reading with field.isId := true }
  if type.scalar? = some .string ∧ type.shape = .one then marked
  else marked.report .identifierType

/-- The reading after an attribute with options of a field. -/
def takeField (reading : FieldReading) (self : Attribute) : FieldReading :=
  match readSkip self with
  | .ok skip => { reading with field.skipped := reading.field.skipped || skip }
  | .error problem => reading.report problem

/-- The reading after an attribute with options of a relation, which replace earlier ones. -/
def takeRelation (reading : FieldReading) (self : Attribute) : FieldReading :=
  if reading.field.type.target?.isNone then reading.report .relationToNoEntity
  else
    match readRelation self with
    | .ok relation => { reading with field.relation := relation }
    | .error problem => reading.report problem

/-- The reading after an attribute. -/
def take (reading : FieldReading) (self : Attribute) : FieldReading :=
  if self.isNamed "id" then reading.takeId
  else if self.isNamed "field" then reading.takeField self
  else if self.isNamed "relation" then reading.takeRelation self
  else reading

/-- The reading when no attribute is left: an identifier has to be stored. -/
def finish (reading : FieldReading) : FieldReading :=
  if reading.field.isId ∧ reading.field.skipped then reading.report .skippedIdentifier
  else reading

end FieldReading

namespace FieldDeclaration

/-- The field that a declaration starts with before its attributes are read. -/
def plain (source : NamedField) : FieldDeclaration :=
  { name := source.name
    declared := source.type
    type := .ofType source.type
    isId := false
    skipped := false
    relation := .default }

/-- The field of a declaration, or all that is wrong with it. -/
def ofSource (source : NamedField) : Except (List Problem) FieldDeclaration :=
  let reading := (source.attributes.foldl FieldReading.take ⟨plain source, []⟩).finish
  if reading.problems.isEmpty then .ok reading.field else .error reading.problems

end FieldDeclaration

end EntityStore.Derive
