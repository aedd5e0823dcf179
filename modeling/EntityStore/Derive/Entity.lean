import EntityStore.Derive.Field
import EntityStore.Source.Name

/-! Entities as they are declared.
An entity is a structure with named fields and no parameters. All problems of its attributes, or
else all problems of its fields, are reported together.
-/

namespace EntityStore.Derive

open Source

/-- An entity. -/
structure EntityDeclaration where
  /-- The name of the structure. -/
  typeName : String
  visibility : List Token
  /-- The name of the entity in the schema. -/
  name : String
  fields : List FieldDeclaration
  deriving Repr

namespace EntityDeclaration

/-- The field that identifies the entity. -/
def idField? (entity : EntityDeclaration) : Option FieldDeclaration :=
  entity.fields.find? (·.isId)

/-- The fields that are attributes of the schema. -/
def attributes (entity : EntityDeclaration) : List FieldDeclaration :=
  entity.fields.filter (·.isAttribute)

/-- The fields that are relationships of the schema. -/
def relationships (entity : EntityDeclaration) : List FieldDeclaration :=
  entity.fields.filter (·.isRelationship)

/-- The name of the type that builds predicates. -/
def predicateBuilder (entity : EntityDeclaration) : String :=
  bareName entity.typeName ++ "PredicateBuilder"

/-- The name of the type that builds sort keys. -/
def sortBuilder (entity : EntityDeclaration) : String :=
  bareName entity.typeName ++ "SortBuilder"

end EntityDeclaration

/-- The name of an entity that is given no other: that of its structure without the end that says
that it is one, unless nothing would be left. -/
def defaultName (typeName : String) : String :=
  let stem := typeName.toList.take (typeName.length - entitySuffix.length)
  if entitySuffix.toList.isSuffixOf typeName.toList ∧ stem ≠ [] then String.ofList stem
  else typeName

/-- What an attribute adds to the settings of an entity. -/
def takeEntityAttribute (found : TextSetting) (self : Attribute) : TextSetting :=
  if self.isNamed "entity" then
    match self.arguments with
    | .none => found
    | .value _ => found.report (.settingsAsValue "entity")
    | .list contents => found.takeList "name" contents
  else found

/-- The settings of an entity in its attributes. -/
def entitySettings (attributes : List Attribute) : TextSetting :=
  attributes.foldl takeEntityAttribute .empty

/-- The named fields of a body, or what it has instead. -/
def namedFields : Body → Except Problem (List NamedField)
  | .named fields => .ok fields
  | .unnamed 1 => .error (.noFieldNames "one unnamed field")
  | .unnamed _ => .error (.noFieldNames "unnamed fields")
  | .unit => .error (.noFieldNames "no fields")
  | .enum => .error (.noStructure "enum")
  | .union => .error (.noStructure "union")

/-- The fields that can be read, and the problems with the others. -/
def readFields (sources : List NamedField) : List FieldDeclaration × List Problem :=
  let read := sources.map FieldDeclaration.ofSource
  (read.filterMap Except.toOption, read.flatMap problemsOf)
where
  /-- The problems with a field. -/
  problemsOf : Except (List Problem) FieldDeclaration → List Problem
    | .ok _ => []
    | .error problems => problems

/-- A problem for each identifier after the first. -/
def secondIdentifiers (fields : List FieldDeclaration) : List Problem :=
  ((fields.filter (·.isId)).drop 1).map fun _ => .secondIdentifier

namespace EntityDeclaration

/-- The entity of a declaration, or all that is wrong with it. -/
def ofDeclaration (source : Declaration) : Except (List Problem) EntityDeclaration := do
  let settings := entitySettings source.attributes
  let sources ←
    match namedFields source.body, settings.problems with
    | .ok sources, [] => pure sources
    | .ok _, problems => throw problems
    | .error problem, problems => throw (problems ++ [problem])
  if source.generic then throw [.genericStructure]
  let (fields, problems) := readFields sources
  match problems ++ secondIdentifiers fields with
  | [] =>
      return {
        typeName := source.name
        visibility := source.visibility
        name := settings.text.getD (defaultName source.name)
        fields }
  | problems => throw problems

end EntityDeclaration

end EntityStore.Derive
