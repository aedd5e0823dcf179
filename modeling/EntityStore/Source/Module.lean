import EntityStore.Source.Function

/-! Modules of declarations.
A module has a head and, unless it stands elsewhere, items. Declarations of types and functions
are looked into, and other items only as far as their end requires.
-/

namespace EntityStore.Source

/-- An item of a module with its tokens. -/
inductive Item where
  | declaration (declaration : Declaration) (tokens : List Token)
  | function (function : Function) (tokens : List Token)
  | other (tokens : List Token)
  deriving Repr

namespace Item

/-- The tokens of an item. -/
def tokens : Item → List Token
  | declaration _ tokens => tokens
  | function _ tokens => tokens
  | other tokens => tokens

end Item

/-- What a module holds. -/
structure ModuleBody where
  /-- The attributes that the module holds for itself. -/
  attributes : List Token
  items : List Item
  deriving Repr

namespace ModuleBody

/-- The tokens of what a module holds. -/
def tokens (body : ModuleBody) : List Token :=
  body.attributes ++ body.items.flatMap Item.tokens

end ModuleBody

/-- A module. -/
structure Module where
  /-- The tokens up to the name. -/
  head : List Token
  name : String
  /-- What the module holds, unless it stands elsewhere. -/
  body : Option ModuleBody
  deriving Repr

namespace Module

/-- The tokens of a module. -/
def tokens (module : Module) : List Token :=
  match module.body with
  | some body => module.head ++ [braces body.tokens]
  | none => module.head ++ code ";"

end Module

/-- Takes everything up to a semicolon, at least one token. -/
def toSemicolon : Parser Unit := do
  if startsSymbol [';'] (← get) then failure
  through fun token =>
    match token with
    | .mark ';' _ => true
    | _ => false

/-- A constant or static value after its keyword. -/
def valueItem : Parser Unit := do
  if !(← keyword? "_") then
    let _ ← freeWord
  symbol [':']
  let _ ← typeExpr
  if !(← symbol? [';']) then
    symbol ['=']
    let _ ← expression
    symbol [';']

/-- A list of names to use after its keyword. -/
def useItem : Parser Unit := do
  let tokens ← get
  if startsAnyWord tokens || startsPathSeparator tokens || startsGroup .brace tokens
      || startsSymbol ['*'] tokens then
    toSemicolon
  else failure

/-- Another name for a type after its keyword. -/
def aliasItem : Parser Unit := do
  let _ ← freeWord
  let _ ← generics
  if startsColon (← get) then
    symbol [':']
    bounds
  let _ ← whereClause
  if ← symbol? ['='] then
    let _ ← typeExpr
  let _ ← whereClause
  symbol [';']

/-- A trait after its keyword: its members, or other traits that it stands for. -/
def traitItem : Parser Unit := do
  let _ ← freeWord
  let _ ← generics
  if ← symbol? ['='] then toSemicolon
  else
    if startsColon (← get) then
      symbol [':']
      if !startsGroup .brace (← get) then bounds
    let _ ← whereClause
    let _ ← group .brace

/-- Parameters start here, and no type in angle brackets. -/
def startsParameters : List Token → Bool
  | .mark '<' _ :: .mark '>' _ :: _ => true
  | .mark '<' _ :: .mark '#' _ :: _ => true
  | .mark '<' _ :: .name "const" :: _ => true
  | .mark '<' _ :: .name _ :: rest | .mark '<' _ :: .lifetime _ :: rest =>
      startsSymbol ['>'] rest || startsSymbol [','] rest || startsColon rest
        || startsSymbol ['='] rest
  | _ => false

/-- What stands before the types of an implementation: parameters, and marks of its kind. -/
def implFront : Parser Unit := do
  if startsParameters (← get) then
    let _ ← generics
  let _ ← symbol? ['?']
  let _ ← keyword? "const"
  let tokens ← get
  if startsSymbol ['!'] tokens && !startsGroup .brace (tokens.drop 1) then symbol ['!']

/-- An implementation after its keyword: of a trait for a type, or of a type alone. -/
def implItem : Parser Unit := do
  implFront
  let _ ← typeExpr
  if ← keyword? "for" then
    let _ ← typeExpr
  let _ ← whereClause
  let _ ← group .brace

/-- Declarations of another language after their keyword, or the name of another library. -/
def externItem : Parser Unit := do
  if ← keyword? "crate" then
    if !(← keyword? "self") then
      let _ ← freeWord
    if ← keyword? "as" then
      if !(← keyword? "_") then
        let _ ← freeWord
    symbol [';']
  else
    match ← get with
    | .literal _ :: rest => set rest
    | _ => pure ()
    let _ ← group .brace

/-- A call of a macro, with a name for what it defines perhaps. -/
def macroItem : Parser Unit := do
  let _ ← plainPath
  symbol ['!']
  if startsFreeWord (← get) then
    let _ ← freeWord
  match ← next with
  | .group .brace _ => return ()
  | .group _ _ => symbol [';']
  | _ => failure

/-- An item that is not looked into, after its attributes and visibility. -/
def otherItem (visible : Bool) : Parser Unit := do
  match ← get with
  | .name "use" :: rest => do set rest; useItem
  | .name "const" :: rest => do set rest; valueItem
  | .name "static" :: rest => do
      set rest
      let _ ← keyword? "mut"
      valueItem
  | .name "type" :: rest => do set rest; aliasItem
  | .name "trait" :: rest => do set rest; traitItem
  | .name "auto" :: .name "trait" :: rest => do set rest; traitItem
  | .name "impl" :: rest => do set rest; implItem
  | .name "extern" :: rest => do set rest; externItem
  | .name "unsafe" :: .name "trait" :: rest => do set rest; traitItem
  | .name "unsafe" :: .name "auto" :: .name "trait" :: rest => do set rest; traitItem
  | .name "unsafe" :: .name "impl" :: rest => do set rest; implItem
  | .name "unsafe" :: .name "extern" :: rest => do set rest; externItem
  | .name "default" :: .name "impl" :: rest => do set rest; implItem
  | .name "default" :: .name "unsafe" :: .name "impl" :: rest => do set rest; implItem
  | .name "macro" :: rest => do
      set rest
      let _ ← freeWord
      throughBlock
  | _ => if visible then failure else macroItem

/-- A module starts here. -/
def startsModule (tokens : List Token) : Bool :=
  startsWord "mod" tokens || startsWord "unsafe" tokens && startsWord "mod" (tokens.drop 1)

/-- A declaration of a type starts here. -/
def startsDeclaration : List Token → Bool
  | .name "struct" :: _ => true
  | .name "enum" :: _ => true
  | .name "union" :: .name word :: _ => isFree word
  | _ => false

mutual
/-- A module after its attributes and visibility, whose tokens are given. -/
def moduleWithin : Nat → List Token → Parser Module
  | 0, _ => failure
  | bound + 1, front => do
      let (name, tokens) ← spelled do
        let _ ← keyword? "unsafe"
        keyword "mod"
        freeWord
      let head := front ++ tokens
      match ← next with
      | .mark ';' _ => return { head, name, body := none }
      | .group .brace contents =>
          return { head, name, body := some (← inside contents (bodyWithin bound)) }
      | _ => failure

/-- What a module holds. -/
def bodyWithin : Nat → Parser ModuleBody
  | 0 => failure
  | bound + 1 => do
      let (_, attributes) ← spelled innerAttributes
      let items ← toEnd (itemWithin bound)
      return { attributes, items }

/-- An item of a module. -/
def itemWithin : Nat → Parser Item
  | 0 => failure
  | bound + 1 => do
      let ((attributes, visibilityTokens), front) ← spelled do
        let attributes ← outerAttributes
        return (attributes, ← visibility)
      let tokens ← get
      if startsSignature tokens then
        let ((function, signatureTokens), spelledTokens) ← spelled (signature attributes)
        match ← next with
        | .mark ';' _ => return .other (front ++ spelledTokens ++ code ";")
        | .group .brace body =>
            let _ ← innerAttributes body
            return .function function (front ++ signatureTokens ++ [braces body])
        | _ => failure
      else if startsModule tokens then
        return .other (← moduleWithin bound front).tokens
      else if startsDeclaration tokens then
        let (declaration, rest) ← declarationAfter attributes visibilityTokens
        return .declaration declaration (front ++ rest)
      else
        let (_, rest) ← spelled (otherItem !visibilityTokens.isEmpty)
        return .other (front ++ rest)
end

/-- A module. -/
def module : Parser Module := do
  let (_, front) ← spelled do
    let _ ← outerAttributes
    visibility
  moduleWithin (descent (← get)) front

namespace Module

/-- The module that is all of the tokens. -/
def read? (tokens : List Token) : Option Module :=
  readAll module tokens

end Module

end EntityStore.Source
