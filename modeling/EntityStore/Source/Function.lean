import EntityStore.Source.Declaration

/-! Declarations of functions.
The body of a function is not looked into.
-/

namespace EntityStore.Source

/-- A parameter of a function. -/
inductive Parameter where
  /-- The value that the function is called on. -/
  | receiver
  /-- A parameter with a name. -/
  | named (name : String) (type : TypeExpr)
  /-- A parameter that is taken apart or passed over. -/
  | pattern
  deriving Repr

/-- A declaration of a function. -/
structure Function where
  attributes : List Attribute
  name : String
  isAsync : Bool
  /-- The function has parameters for types, lifetimes or constants. -/
  generic : Bool
  parameters : List Parameter
  /-- The type of the answer, if the function has one. -/
  output : Option TypeExpr
  deriving Repr

/-- The value that a function is called on. -/
def receiver : Parser Parameter := do
  let reference ← symbol? ['&']
  if reference && startsLifetime (← get) then lifetime
  let _ ← keyword? "mut"
  keyword "self"
  if !reference then
    if ← symbol? [':'] then
      let _ ← typeExpr
  return .receiver

/-- A pattern that is no name may start here. -/
def startsPattern (tokens : List Token) : Bool :=
  match tokens with
  | .name word :: rest =>
      if isFree word then
        startsPathSeparator rest || startsSymbol ['!'] rest || startsGroup .brace rest
          || startsGroup .parenthesis rest || startsSymbol ['.', '.'] rest
      else ["_", "box", "const", "true", "false", "self", "Self", "super", "crate"].contains word
  | .literal _ :: _ => true
  | .group .parenthesis _ :: _ | .group .bracket _ :: _ => true
  | .mark char _ :: _ => ['&', '-', '<', ':', '.'].contains char
  | _ => false

/-- The tokens before a colon that is no part of a path separator, and the colon with what follows
it. -/
def beforeColon : List Token → List Token × List Token
  | .mark ':' true :: .mark ':' joint :: rest =>
      let (before, after) := beforeColon rest
      (.mark ':' true :: .mark ':' joint :: before, after)
  | .mark ':' joint :: rest => ([], .mark ':' joint :: rest)
  | token :: rest =>
      let (before, after) := beforeColon rest
      (token :: before, after)
  | [] => ([], [])

/-- The name that a pattern gives to all of what it meets, if it is such a pattern. -/
def patternName? : Parser (Option String) := do
  let (pattern, rest) := beforeColon (← get)
  set rest
  if startsPattern pattern then return none
  let named : Parser String := do
    let _ ← keyword? "ref"
    let _ ← keyword? "mut"
    let name ← freeWord
    if ← symbol? ['@'] then
      if ← atEnd then failure
      set ([] : List Token)
    return name
  match readAll named pattern with
  | some name => return some name
  | none => failure

/-- A parameter: a pattern and a type, or a type with arguments alone. -/
def typedParameter : Parser Parameter := do
  match ← get with
  | .name word :: .mark '<' _ :: _ =>
      if isFree word then
        let _ ← typeExpr
        return .pattern
      else failure
  | _ =>
      let name? ← patternName?
      symbol [':']
      let type ← typeExpr
      match name? with
      | some name => return .named name type
      | none => return .pattern

/-- The parameters of a function, at most so many. A receiver is the first one or none. Any number
of further arguments may be left open at the end. -/
def parametersWithin : Nat → Bool → Parser (List Parameter)
  | 0, _ => failure
  | bound + 1, first => do
      if ← atEnd then return []
      let _ ← outerAttributes
      let openEnd : Parser (List Parameter) := do
        if !startsSymbol "...".toList (← get) then
          let _ ← patternName?
          symbol [':']
        symbol "...".toList
        let _ ← symbol? [',']
        if ← atEnd then return [] else failure
      let parameters : Parser (List Parameter) := do
        let parameter ←
          (do
            let parameter ← receiver
            let rest ← get
            if rest.isEmpty || startsSymbol [','] rest then return parameter else failure)
          <|> typedParameter
        match parameter, first with
        | .receiver, false => failure
        | _, _ => pure ()
        if ← atEnd then return [parameter]
        symbol [',']
        return parameter :: (← parametersWithin bound false)
      openEnd <|> parameters

/-- The parameters of a function. -/
def parameters : Parser (List Parameter) := do
  parametersWithin ((← get).length + 1) true

/-- The signature of a function starts here. -/
def startsSignature : List Token → Bool
  | .name "fn" :: _ => true
  | .name word :: rest =>
      ["const", "async", "unsafe", "safe", "extern"].contains word && startsSignature rest
  | .literal _ :: rest => startsSignature rest
  | _ => false

/-- The signature of a function, and its tokens. -/
def signature (attributes : List Attribute) : Parser (Function × List Token) := do
  let ((isAsync, name), front) ← spelled do
    let _ ← keyword? "const"
    let isAsync ← keyword? "async"
    let _ ← keyword? "safe"
    let _ ← keyword? "unsafe"
    if ← keyword? "extern" then
      match ← get with
      | .literal _ :: rest => set rest
      | _ => pure ()
    keyword "fn"
    return (isAsync, ← freeWord)
  let (generic, genericTokens) ← generics
  let contents ← group .parenthesis
  let parameters ← inside contents parameters
  let (output, outputTokens) ← spelled do
    if ← symbol? ['-', '>'] then some <$> typeExpr else return none
  let conditions ← whereClause
  return ({ attributes, name, isAsync, generic, parameters, output },
    front ++ genericTokens ++ [parens contents] ++ outputTokens ++ conditions)

/-- A function after its attributes and visibility, and its tokens. -/
def functionAfter (attributes : List Attribute) : Parser (Function × List Token) := do
  let (function, front) ← signature attributes
  let body ← group .brace
  let _ ← innerAttributes body
  return (function, front ++ [braces body])

/-- A declaration of a function. -/
def function : Parser Function := do
  let attributes ← outerAttributes
  let _ ← visibility
  let (function, _) ← functionAfter attributes
  return function

namespace Function

/-- The function that is all of the tokens. -/
def read? (tokens : List Token) : Option Function :=
  readAll function tokens

end Function

end EntityStore.Source
