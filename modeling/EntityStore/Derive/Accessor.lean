import EntityStore.Derive.Code
import EntityStore.Derive.Entity

/-! The accessors of entities.
An accessor leads from an entity to one of its stored fields, in a predicate or in a sort key. A
field whose items are stored as text has none. In a predicate an accessor says whether its field
is a list, because then any item decides.
-/

namespace EntityStore.Derive

open Source

/-- What an accessor leads to. -/
inductive AccessorKind where
  | truth
  | value
  | entity
  deriving DecidableEq, Repr

/-- An accessor of a field. -/
structure Accessor where
  /-- The name of the field. -/
  name : String
  key : String
  kind : AccessorKind
  /-- The type of the items. -/
  element : TypeExpr
  /-- The field is a list. -/
  list : Bool
  deriving Repr

namespace FieldDeclaration

/-- What an accessor of a field leads to, if it has one. -/
def accessorKind? (field : FieldDeclaration) : Option AccessorKind :=
  if field.skipped then none
  else
    match field.type.kind with
    | .scalar .boolean => some .truth
    | .scalar _ => some .value
    | .reference _ => some .entity
    | .textual => none

/-- The accessor of a field, if it has one. -/
def accessor? (field : FieldDeclaration) : Option Accessor :=
  field.accessorKind?.map fun kind =>
    { name := field.name
      key := field.key
      kind
      element := field.type.element
      list := field.type.shape.list }

end FieldDeclaration

/-- The accessors of an entity. -/
def EntityDeclaration.accessors (entity : EntityDeclaration) : List Accessor :=
  entity.fields.filterMap (·.accessor?)

/-- A type that belongs to the entity that a type is. -/
def memberType (element : TypeExpr) (name : String) : List Token :=
  angleCode [] [element.tokens ++ code "as" ++ runtime "Entity"] ++ code "::" ++ nameCode name

/-- A method of a builder. -/
def methodCode (name : String) (output body : List Token) : List Token :=
  mustUseCode ++ code "pub fn" ++ nameCode name ++ [parens (code "& self")] ++ code "->" ++ output
    ++ [braces body]

namespace Accessor

/-- A call that extends the path of a builder. -/
def pathCall (method : List Token) (arguments : List (List Token)) : List Token :=
  callCode (code "self . path ." ++ method) arguments

/-- The accessor in a predicate. -/
def predicateCode (accessor : Accessor) : List Token :=
  let arguments := [textCode accessor.key, flagCode accessor.list]
  let element := accessor.element
  let method :=
    match accessor.kind with
    | .truth =>
        methodCode accessor.name (runtime "BoolPredicate") (pathCall (code "boolean") arguments)
    | .value =>
        methodCode accessor.name (angleCode (runtime "ValuePredicate") [element.tokens])
          (pathCall (angleCode (code "value ::") [element.tokens]) arguments)
    | .entity =>
        let target := memberType element "Predicate"
        methodCode accessor.name target
          (pathCall (angleCode (code "object ::") [target]) arguments)
  docCode ("Filter on `" ++ accessor.name ++ "`.") ++ method

/-- The accessor in a sort key. -/
def sortCode (accessor : Accessor) : List Token :=
  let arguments := [textCode accessor.key]
  match accessor.kind with
  | .truth | .value =>
      methodCode accessor.name (runtime "ValueSorter") (pathCall (code "sort") arguments)
  | .entity =>
      let target := memberType accessor.element "Sort"
      methodCode accessor.name target (pathCall (angleCode (code "object ::") [target]) arguments)

end Accessor

/-- A type that holds a path and extends it by accessors. -/
def builderCode (visibility : List Token) (doc name trait path : String)
    (accessors : List Token)
    : List Token :=
  let pathField := code "path :" ++ runtime path
  let fromPath :=
    code "fn from_path" ++ [parens pathField] ++ code "-> Self"
      ++ [braces (code "Self" ++ [braces (code "path")])]
  docCode doc ++ deriveCode ++ visibility ++ code "struct" ++ nameCode name ++ [braces pathField]
    ++ code "impl" ++ runtime trait ++ code "for" ++ nameCode name ++ [braces fromPath]
    ++ code "impl" ++ nameCode name ++ [braces accessors]

namespace EntityDeclaration

/-- The builder of predicates on an entity. -/
def predicateBuilderCode (entity : EntityDeclaration) : List Token :=
  builderCode entity.visibility ("Filter builder for [`" ++ entity.typeName ++ "`].")
    entity.predicateBuilder "PredicateBuilder" "ObjectPredicate"
    (entity.accessors.flatMap Accessor.predicateCode)

/-- The builder of sort keys of an entity. -/
def sortBuilderCode (entity : EntityDeclaration) : List Token :=
  builderCode entity.visibility ("Sort key builder for [`" ++ entity.typeName ++ "`].")
    entity.sortBuilder "SortBuilder" "ObjectSorter"
    (entity.accessors.flatMap Accessor.sortCode)

end EntityDeclaration

end EntityStore.Derive
