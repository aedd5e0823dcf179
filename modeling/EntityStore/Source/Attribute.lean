import EntityStore.Source.Expression

/-! Attributes of declarations.
An attribute has a path and perhaps arguments: a list in brackets, or a value. Documentation is
kept in attributes too, a line or a block in each.
-/

namespace EntityStore.Source

/-- The path of an attribute. -/
structure AttributePath where
  /-- The path starts with a separator. -/
  rooted : Bool
  names : List String
  deriving DecidableEq, Repr

namespace AttributePath

/-- The path is a single name. -/
def isName (path : AttributePath) (name : String) : Bool :=
  !path.rooted && path.names = [name]

/-- The names of the path with separators between them. -/
def text (path : AttributePath) : String :=
  "::".intercalate path.names

end AttributePath

/-- The arguments of an attribute. -/
inductive AttributeArguments where
  | none
  | list (contents : List Token)
  /-- A value after an equals sign. -/
  | value (tokens : List Token)
  deriving Repr

/-- An attribute. -/
structure Attribute where
  path : AttributePath
  arguments : AttributeArguments
  deriving Repr

/-- The names of a path with separators between them. -/
def pathNames : Parser (List String) := do
  let names ← untilAhead (fun tokens => !startsPathSeparator tokens) do
    symbol [':', ':']
    pathName
  return names
where
  /-- A name, or a word that leads to another module. -/
  pathName : Parser String := do
    let word ← anyWord
    if isFree word || ["super", "self", "Self", "crate"].contains word then return word
    else failure

/-- A path without arguments. -/
def plainPath : Parser AttributePath := do
  let rooted ← symbol? [':', ':']
  let first ← pathNames.pathName
  return { rooted, names := first :: (← pathNames) }

/-- The path of an attribute; an attribute with duties for its user has a keyword there. -/
def attributePath : Parser AttributePath := do
  if ← keyword? "unsafe" then return { rooted := false, names := ["unsafe"] }
  else plainPath

/-- An attribute inside of its brackets. -/
def attributeBody : Parser Attribute := do
  let path ← attributePath
  match ← get with
  | .group _ contents :: rest =>
      set rest
      return { path, arguments := .list contents }
  | _ =>
      if ← symbol? ['='] then
        let (_, tokens) ← spelled valueExpression
        return { path, arguments := .value tokens }
      else return { path, arguments := .none }

/-- An attribute of what follows it. -/
def startsOuterAttribute : List Token → Bool
  | .mark '#' _ :: .group .bracket _ :: _ => true
  | _ => false

/-- An attribute of what encloses it. -/
def startsInnerAttribute : List Token → Bool
  | .mark '#' _ :: .mark '!' _ :: .group .bracket _ :: _ => true
  | _ => false

/-- The attributes in front of a declaration. -/
def outerAttributes : Parser (List Attribute) :=
  untilAhead (fun tokens => !startsOuterAttribute tokens) do
    symbol ['#']
    inside (← group .bracket) attributeBody

/-- The attributes of what encloses them. -/
def innerAttributes : Parser (List Attribute) :=
  untilAhead (fun tokens => !startsInnerAttribute tokens) do
    symbol ['#']
    symbol ['!']
    inside (← group .bracket) attributeBody

namespace Attribute

/-- The attribute has a single name. -/
def isNamed (self : Attribute) (name : String) : Bool :=
  self.path.isName name

/-- The text of an attribute that documents. -/
def documentation? (self : Attribute) : Option String :=
  if self.isNamed "doc" then
    match self.arguments with
    | .value [.literal text] => stringValue? text
    | _ => none
  else none

end Attribute

/-- The documentation in attributes: their texts without blanks at the ends, a line each. -/
def documentation? (attributes : List Attribute) : Option String :=
  let texts := attributes.filterMap Attribute.documentation?
  let text := Text.trim ("\n".intercalate (texts.map Text.trim))
  if text.isEmpty then none else some text

end EntityStore.Source
