import EntityStore.Source.Literal
import EntityStore.Source.TypeExpr

/-! Expressions as they are written.
An expression is only looked into as far as its end and its outermost form require. What stands in
brackets is looked into for the marks that tell the forms of brackets apart, and no further. Where a
block follows, as after a condition, a brace behind a path is not part of the expression.
-/

namespace EntityStore.Source

/-- An expression. -/
inductive Expression where
  /-- A literal as it is spelled. -/
  | literal (text : String)
  /-- A truth value. -/
  | truth
  /-- Any other expression, by the name of its outermost form. -/
  | form (name : String)
  deriving DecidableEq, Repr

-----------------------------------------------------------------------------------------
-- Operators
-----------------------------------------------------------------------------------------

/-- What an operator makes of its operands. The forms that bind less come first. -/
inductive Operation where
  | assign
  | range
  | binary
  | cast
  deriving DecidableEq, Repr

namespace Operation

/-- The name of the form. -/
def name : Operation → String
  | assign => "assign"
  | range => "range"
  | binary => "binary"
  | cast => "cast"

/-- The form of an expression with some operations: the one that binds least. -/
def outermost? (operations : List Operation) : Option Operation :=
  [assign, range, binary, cast].find? operations.contains

end Operation

/-- The operators with two operands, where one that starts with another one comes first. -/
def operators : List (String × Operation) :=
  [("<<=", .binary), (">>=", .binary), ("..=", .range), ("..", .range), ("==", .binary),
    ("!=", .binary), ("<=", .binary), (">=", .binary), ("&&", .binary), ("||", .binary),
    ("+=", .binary), ("-=", .binary), ("*=", .binary), ("/=", .binary), ("%=", .binary),
    ("^=", .binary), ("&=", .binary), ("|=", .binary), ("<<", .binary), (">>", .binary),
    ("+", .binary), ("-", .binary), ("*", .binary), ("/", .binary), ("%", .binary),
    ("^", .binary), ("&", .binary), ("|", .binary), ("<", .binary), (">", .binary)]

/-- The operator at the front, if one is there. -/
def operator? : Parser (Option Operation) := do
  let tokens ← get
  if startsSymbol "=>".toList tokens then return none
  match operators.find? (fun (text, _) => startsSymbol text.toList tokens) with
  | some (text, operation) =>
      symbol text.toList
      return some operation
  | none =>
      if ← symbol? ['='] then return some .assign
      else if ← keyword? "as" then return some .cast
      else return none

-----------------------------------------------------------------------------------------
-- Operands
-----------------------------------------------------------------------------------------

/-- A mark stands among the tokens, outside of brackets. -/
def hasMark (char : Char) (tokens : List Token) : Bool :=
  tokens.any fun token =>
    match token with
    | .mark found _ => found = char
    | _ => false

/-- The expression may end here. Where it may not build structures, a brace ends it, too. -/
def endsExpression (builds : Bool) (tokens : List Token) : Bool :=
  tokens.isEmpty || startsSymbol [','] tokens || startsSymbol [';'] tokens
    || !builds && startsGroup .brace tokens

/-- Takes what comes before a block, and the block. -/
def throughBlock : Parser Unit :=
  through fun token =>
    match token with
    | .group .brace _ => true
    | _ => false

/-- The tokens behind a pattern and its equals sign. -/
def afterPattern : List Token → List Token
  | .mark '.' true :: .mark '=' _ :: rest => afterPattern rest
  | .mark '=' _ :: rest => rest
  | _ :: rest => afterPattern rest
  | [] => []

mutual
/-- An expression. Where the flag is not set, it may not build structures. -/
def expressionWithin : Nat → Bool → Parser Expression
  | 0, _ => failure
  | bound + 1, builds => do
      let first ← operandWithin bound builds
      let operations ← operationsWithin bound builds
      match Operation.outermost? operations with
      | some operation => return .form operation.name
      | none => return first

/-- The operations after an operand. A range may lack its end. -/
def operationsWithin : Nat → Bool → Parser (List Operation)
  | 0, _ => failure
  | bound + 1, builds => do
      match ← operator? with
      | none => return []
      | some .cast =>
          let _ ← typeWithin bound false
          return .cast :: (← operationsWithin bound builds)
      | some .range =>
          if endsExpression builds (← get) then return [.range]
          let _ ← operandWithin bound builds
          return .range :: (← operationsWithin bound builds)
      | some operation =>
          let _ ← operandWithin bound builds
          return operation :: (← operationsWithin bound builds)

/-- An operand with what stands before and after it. -/
def operandWithin : Nat → Bool → Parser Expression
  | 0, _ => failure
  | bound + 1, builds => do
      let tokens ← get
      match tokens with
      | .mark '#' _ :: .group .bracket _ :: rest =>
          set rest
          operandWithin bound builds
      | .mark '&' _ :: .name "raw" :: .name "const" :: rest
      | .mark '&' _ :: .name "raw" :: .name "mut" :: rest =>
          set rest
          let _ ← operandWithin bound builds
          return .form "unknown"
      | .mark '&' _ :: rest =>
          set rest
          let _ ← keyword? "mut"
          let _ ← operandWithin bound builds
          return .form "reference"
      | .mark '*' _ :: rest | .mark '!' _ :: rest | .mark '-' _ :: rest =>
          set rest
          let _ ← operandWithin bound builds
          return .form "unary"
      | _ =>
          if startsSymbol "..".toList tokens then
            symbol "..".toList
            let _ ← symbol? ['=']
            if !endsExpression builds (← get) then
              let _ ← operandWithin bound builds
            return .form "range"
          else
            let first ← primaryWithin bound builds
            suffixesWithin bound first

/-- What stands after an operand and makes another one of it. -/
def suffixesWithin : Nat → Expression → Parser Expression
  | 0, _ => failure
  | bound + 1, before => do
      match ← get with
      | .group .parenthesis _ :: rest =>
          set rest
          suffixesWithin bound (.form "call")
      | .group .bracket _ :: rest =>
          set rest
          suffixesWithin bound (.form "index")
      | .mark '?' _ :: rest =>
          set rest
          suffixesWithin bound (.form "try")
      | .mark '.' false :: .name "await" :: rest =>
          set rest
          suffixesWithin bound (.form "await")
      | .mark '.' false :: .literal _ :: rest =>
          set rest
          suffixesWithin bound (.form "field")
      | .mark '.' false :: .name _ :: .group .parenthesis _ :: rest =>
          set rest
          suffixesWithin bound (.form "method_call")
      | .mark '.' false :: .name _ :: rest =>
          set rest
          if startsSeparatedAngles rest then
            symbol [':', ':']
            symbol ['<']
            let _ ← separatedWithin (startsSymbol ['>']) ',' (argumentWithin bound) bound
            symbol ['>']
            let _ ← group .parenthesis
            suffixesWithin bound (.form "method_call")
          else suffixesWithin bound (.form "field")
      | _ => return before

/-- An operand on its own. -/
def primaryWithin : Nat → Bool → Parser Expression
  | 0, _ => failure
  | bound + 1, builds => do
      let tokens ← get
      match tokens with
      | .literal text :: rest =>
          set rest
          return .literal text
      | .group .parenthesis contents :: rest =>
          set rest
          return .form (if contents.isEmpty || hasMark ',' contents then "tuple" else "paren")
      | .group .bracket contents :: rest =>
          set rest
          return .form (if hasMark ';' contents then "repeat" else "array")
      | .group .brace _ :: rest =>
          set rest
          return .form "block"
      | .lifetime _ :: .mark ':' _ :: rest =>
          set rest
          primaryWithin bound builds
      | .mark '|' _ :: _ => closureWithin bound builds
      | .name word :: rest =>
          match word with
          | "true" | "false" =>
              set rest
              return .truth
          | "_" =>
              set rest
              return .form "infer"
          | "let" =>
              if startsSymbol ['='] rest then failure
              set (afterPattern rest)
              let _ ← operandWithin bound builds
              return .form "let"
          | "if" =>
              set rest
              headedBlockWithin bound
              if ← keyword? "else" then
                if startsWord "if" (← get) then
                  let _ ← primaryWithin bound builds
                else
                  let _ ← group .brace
              return .form "if"
          | "match" | "while" =>
              set rest
              headedBlockWithin bound
              return .form word
          | "for" =>
              if startsSymbol ['<'] rest then closureWithin bound builds
              else
                through fun token =>
                  match token with
                  | .name "in" => true
                  | _ => false
                headedBlockWithin bound
                return .form "for_loop"
          | "loop" | "unsafe" =>
              set rest
              let _ ← group .brace
              return .form word
          | "try" =>
              set rest
              let _ ← group .brace
              return .form "try_block"
          | "async" =>
              match rest with
              | .mark '|' _ :: _ => closureWithin bound builds
              | .name "move" :: .mark '|' _ :: _ => closureWithin bound builds
              | _ =>
                  set rest
                  let _ ← keyword? "move"
                  let _ ← group .brace
                  return .form "async"
          | "const" =>
              if startsGroup .brace rest then
                set rest
                let _ ← group .brace
                return .form "const"
              else closureWithin bound builds
          | "move" | "static" => closureWithin bound builds
          | "return" | "yield" =>
              set rest
              if !endsExpression builds rest then
                let _ ← expressionWithin bound builds
              return .form word
          | "break" =>
              set rest
              if startsLifetime rest then lifetime
              if !endsExpression builds (← get) then
                let _ ← expressionWithin bound builds
              return .form word
          | "continue" =>
              set rest
              if startsLifetime rest then lifetime
              return .form word
          | _ => pathOperandWithin bound builds
      | _ => pathOperandWithin bound builds

/-- A block and the expression before it. -/
def headedBlockWithin : Nat → Parser Unit
  | 0 => failure
  | bound + 1 => do
      let _ ← expressionWithin bound false
      let _ ← group .brace

/-- An operand that starts with a path. -/
def pathOperandWithin : Nat → Bool → Parser Expression
  | 0, _ => failure
  | bound + 1, builds => do
      let qualified ← symbol? ['<']
      if qualified then
        let _ ← typeWithin bound true
        if ← keyword? "as" then
          let _ ← pathWithin bound
        symbol ['>']
        symbol [':', ':']
      else
        let _ ← symbol? [':', ':']
      let plain ← namesWithin bound
      match ← get with
      | .mark '!' false :: .group _ _ :: rest =>
          if qualified || !plain then failure
          set rest
          return .form "macro"
      | .group .brace _ :: rest =>
          if builds then
            set rest
            return .form "struct"
          else return .form "path"
      | _ => return .form "path"

/-- The segments of a path in an expression. The answer is whether none has arguments. -/
def namesWithin : Nat → Parser Bool
  | 0 => failure
  | bound + 1 => do
      if !startsPath (← get) then failure
      let _ ← anyWord
      let rest ← get
      if startsSeparatedAngles rest then
        symbol [':', ':']
        symbol ['<']
        let _ ← separatedWithin (startsSymbol ['>']) ',' (argumentWithin bound) bound
        symbol ['>']
        if ← symbol? [':', ':'] then
          let _ ← namesWithin bound
        return false
      else if ← symbol? [':', ':'] then namesWithin bound
      else return true

/-- A function without a name. -/
def closureWithin : Nat → Bool → Parser Expression
  | 0, _ => failure
  | bound + 1, builds => do
      if startsWord "for" (← get) then lifetimeBinderWithin bound
      let _ ← keyword? "const"
      let _ ← keyword? "static"
      let _ ← keyword? "async"
      let _ ← keyword? "move"
      if !(← symbol? ['|', '|']) then
        symbol ['|']
        through fun token =>
          match token with
          | .mark '|' _ => true
          | _ => false
      if ← symbol? ['-', '>'] then
        let _ ← typeWithin bound false
        let _ ← group .brace
      else
        let _ ← expressionWithin bound builds
      return .form "closure"
end

/-- An expression. -/
def expression : Parser Expression := do
  expressionWithin (descent (← get)) true

/-- A literal, a truth value, or a negative number, and nothing else. A negative number keeps its
sign here. -/
def soleLiteral? : List Token → Option Expression
  | [.literal text] => some (.literal text)
  | [.name "true"] => some .truth
  | [.name "false"] => some .truth
  | [.mark '-' _, .literal text] =>
      match literalKind text with
      | .int => some (.literal text)
      | .float => some (.literal text)
      | _ => none
  | _ => none

/-- A literal that is all of the tokens, or else an expression. -/
def valueExpression : Parser Expression := do
  match soleLiteral? (← get) with
  | some value =>
      set ([] : List Token)
      return value
  | none => expression

end EntityStore.Source
