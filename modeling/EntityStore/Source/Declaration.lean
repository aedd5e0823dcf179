import EntityStore.Source.Attribute

/-! Declarations of types.
A declaration has attributes, a visibility, a name, perhaps parameters, and a body. Empty lists of
parameters and conditions count as none and are not kept.
-/

namespace EntityStore.Source

/-- A field with a name. -/
structure NamedField where
  attributes : List Attribute
  name : String
  type : TypeExpr
  deriving Repr

/-- What a declaration of a type holds. -/
inductive Body where
  /-- Fields with names. -/
  | named (fields : List NamedField)
  /-- So many fields without names. -/
  | unnamed (count : Nat)
  | unit
  /-- Alternatives. -/
  | enum
  /-- Fields with names that share their place. -/
  | union
  deriving Repr

/-- A declaration of a type. -/
structure Declaration where
  attributes : List Attribute
  visibility : List Token
  name : String
  /-- The declaration has parameters. -/
  generic : Bool
  body : Body
  deriving Repr

/-- The visibility of a declaration, which may be left out. -/
def visibility : Parser (List Token) := do
  let (_, tokens) ← spelled do
    if ← keyword? "pub" then
      match ← get with
      | .group .parenthesis [.name word] :: rest =>
          if ["crate", "self", "super"].contains word then set rest
      | .group .parenthesis (.name "in" :: path) :: rest =>
          let _ ← inside path plainPath
          set rest
      | _ => pure ()
  return tokens

/-- A parameter of a declaration: a lifetime, a type, or a constant. -/
def genericParameter : Parser Unit := do
  let _ ← outerAttributes
  let tokens ← get
  if startsLifetime tokens then lifetimeParameter
  else if ← keyword? "const" then
    let _ ← freeWord
    symbol [':']
    let _ ← typeExpr
    if ← symbol? ['='] then constant
  else
    if !(← keyword? "_") then
      let _ ← freeWord
    if startsColon (← get) then
      symbol [':']
      if !endsParameter (← get) then bounds
    if ← symbol? ['='] then
      let _ ← typeExpr
where
  /-- The parameter may end here. -/
  endsParameter (tokens : List Token) : Bool :=
    startsSymbol [','] tokens || startsSymbol ['>'] tokens || startsSymbol ['='] tokens
  /-- A constant: a literal, a name, or a block. -/
  constant : Parser Unit := do
    let _ ← symbol? ['-']
    match ← next with
    | .literal _ | .name _ | .group .brace _ => return ()
    | _ => failure

/-- The parameters of a declaration: whether there are any, and their tokens. -/
def generics : Parser (Bool × List Token) := do
  if startsSymbol ['<'] (← get) then
    let (parameters, tokens) ← spelled do
      symbol ['<']
      let parameters ← separated (startsSymbol ['>']) ',' genericParameter
      symbol ['>']
      return parameters
    return if parameters.isEmpty then (false, []) else (true, tokens)
  else return (false, [])

/-- The conditions end here. -/
def endsConditions (tokens : List Token) : Bool :=
  tokens.isEmpty || startsGroup .brace tokens || startsSymbol [';'] tokens
    || startsColon tokens || startsSymbol ['='] tokens

/-- A condition on parameters. -/
def condition : Parser Unit := do
  if startsLifetime (← get) then lifetime
  else
    if startsWord "for" (← get) then lifetimeBinder
    let _ ← typeExpr
  symbol [':']
  let rest ← get
  if !endsConditions rest && !startsSymbol [','] rest then bounds

/-- The tokens of the conditions on parameters, which may be left out. -/
def whereClause : Parser (List Token) := do
  if startsWord "where" (← get) then
    let (conditions, tokens) ← spelled do
      keyword "where"
      separated endsConditions ',' condition
    return if conditions.isEmpty then [] else tokens
  else return []

/-- A field with a name. -/
def namedField : Parser NamedField := do
  let attributes ← outerAttributes
  let _ ← visibility
  let name ← if ← keyword? "_" then pure "_" else freeWord
  symbol [':']
  let type ← typeExpr
  return { attributes, name, type }

/-- A field without a name. -/
def unnamedField : Parser Unit := do
  let _ ← outerAttributes
  let _ ← visibility
  let _ ← typeExpr

/-- An alternative, perhaps with fields and a number. -/
def variant : Parser Unit := do
  let _ ← outerAttributes
  let _ ← visibility
  let _ ← freeWord
  match ← get with
  | .group .brace contents :: rest =>
      set rest
      let _ ← inside contents (commaList namedField)
  | .group .parenthesis contents :: rest =>
      set rest
      let _ ← inside contents (commaList unnamedField)
  | _ => pure ()
  if ← symbol? ['='] then
    let _ ← expression

/-- The body of a structure, and the tokens of the conditions and the body. -/
def structureBody : Parser (Body × List Token) := do
  let conditions ← whereClause
  match ← get with
  | .group .brace contents :: rest =>
      set rest
      let fields ← inside contents (commaList namedField)
      return (.named fields, conditions ++ [braces contents])
  | .group .parenthesis contents :: rest =>
      if !conditions.isEmpty then failure
      set rest
      let fields ← inside contents (commaList unnamedField)
      let conditions ← whereClause
      symbol [';']
      return (.unnamed fields.length, parens contents :: (conditions ++ code ";"))
  | _ =>
      symbol [';']
      return (.unit, conditions ++ code ";")

/-- The body that a keyword starts after the parameters, and the tokens of the conditions and the
body. -/
def bodyOf (word : String) : Parser (Body × List Token) :=
  match word with
  | "struct" => structureBody
  | "enum" => do
      let conditions ← whereClause
      let contents ← group .brace
      let _ ← inside contents (commaList variant)
      return (.enum, conditions ++ [braces contents])
  | "union" => do
      let conditions ← whereClause
      let contents ← group .brace
      let _ ← inside contents (commaList namedField)
      return (.union, conditions ++ [braces contents])
  | _ => failure

/-- A declaration after its attributes and visibility, and its tokens. -/
def declarationAfter (attributes : List Attribute) (visibility : List Token)
    : Parser (Declaration × List Token) := do
  let word ← anyWord
  let name ← freeWord
  let (generic, parameters) ← generics
  let (body, rest) ← bodyOf word
  return ({ attributes, visibility, name, generic, body },
    .name word :: .name name :: (parameters ++ rest))

/-- A declaration of a type. -/
def declaration : Parser Declaration := do
  let attributes ← outerAttributes
  let visibility ← visibility
  let (declaration, _) ← declarationAfter attributes visibility
  return declaration

namespace Declaration

/-- The declaration that is all of the tokens. -/
def read? (tokens : List Token) : Option Declaration :=
  readAll declaration tokens

end Declaration

end EntityStore.Source
