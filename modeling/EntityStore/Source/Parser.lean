import EntityStore.Source.Name
import EntityStore.Source.Token

/-! Reading structure from tokens.
A parser takes tokens from the front, or fails. A choice between parsers starts the second one
where the first one started.
-/

namespace EntityStore.Source

/-- A reader of tokens from the front. -/
abbrev Parser (α : Type) := StateT (List Token) Option α

/-- The tokens start with the marks of a symbol, each joined to the next. -/
def startsSymbol : List Char → List Token → Bool
  | [], _ => true
  | [char], .mark found _ :: _ => char = found
  | char :: rest, .mark found true :: tokens => char = found && startsSymbol rest tokens
  | _, _ => false

/-- The tokens start with a path separator. -/
def startsPathSeparator : List Token → Bool :=
  startsSymbol [':', ':']

/-- The tokens start with a colon that is no part of a path separator. -/
def startsColon (tokens : List Token) : Bool :=
  startsSymbol [':'] tokens && !startsPathSeparator tokens

/-- The tokens start with a word. -/
def startsWord (word : String) : List Token → Bool
  | .name found :: _ => found = word
  | _ => false

/-- The tokens start with a name or keyword. -/
def startsAnyWord : List Token → Bool
  | .name _ :: _ => true
  | _ => false

/-- The tokens start with a word that can name something. -/
def startsFreeWord : List Token → Bool
  | .name word :: _ => isFree word
  | _ => false

/-- The tokens start with a lifetime. -/
def startsLifetime : List Token → Bool
  | .lifetime _ :: _ => true
  | _ => false

/-- The tokens start with a group in brackets of a kind. -/
def startsGroup (delimiter : Delimiter) : List Token → Bool
  | .group found _ :: _ => found = delimiter
  | _ => false

/-- The tokens start with a literal, a truth value, or a negative number. -/
def startsLiteral : List Token → Bool
  | .literal _ :: _ => true
  | .name word :: _ => word = "true" || word = "false"
  | .mark '-' _ :: .literal _ :: _ => true
  | _ => false

/-- The next token. -/
def next : Parser Token := do
  match ← get with
  | token :: rest => set rest; return token
  | [] => failure

/-- No token is left. -/
def atEnd : Parser Bool :=
  return (← get).isEmpty

/-- The tokens to come satisfy a condition. -/
def ahead (condition : List Token → Bool) : Parser Bool :=
  return condition (← get)

/-- The marks of a symbol. -/
def symbol (chars : List Char) : Parser Unit := do
  if startsSymbol chars (← get) then modify (·.drop chars.length) else failure

/-- The marks of a symbol, if they come next. -/
def symbol? (chars : List Char) : Parser Bool := do
  if startsSymbol chars (← get) then
    modify (·.drop chars.length)
    return true
  else return false

/-- A keyword. -/
def keyword (word : String) : Parser Unit := do
  if startsWord word (← get) then modify (·.drop 1) else failure

/-- A keyword, if it comes next. -/
def keyword? (word : String) : Parser Bool := do
  if startsWord word (← get) then
    modify (·.drop 1)
    return true
  else return false

/-- A name or keyword. -/
def anyWord : Parser String := do
  match ← next with
  | .name word => return word
  | _ => failure

/-- A word that can name something. -/
def freeWord : Parser String := do
  let word ← anyWord
  if isFree word then return word else failure

/-- A lifetime. -/
def lifetime : Parser Unit := do
  match ← next with
  | .lifetime _ => return ()
  | _ => failure

/-- What a group in brackets of a kind holds. -/
def group (delimiter : Delimiter) : Parser (List Token) := do
  match ← next with
  | .group found contents => if found = delimiter then return contents else failure
  | _ => failure

/-- What a group in any brackets holds. -/
def anyGroup : Parser (List Token) := do
  match ← next with
  | .group _ contents => return contents
  | _ => failure

/-- What a parser reads when it takes all of the tokens. -/
def readAll (parser : Parser α) (tokens : List Token) : Option α :=
  match parser tokens with
  | some (value, []) => some value
  | _ => none

/-- What a parser reads inside of a group, of which it takes everything. -/
def inside (contents : List Token) (parser : Parser α) : Parser α :=
  fun tokens => (readAll parser contents).map (·, tokens)

/-- What a parser reads, together with the tokens that it takes. -/
def spelled (parser : Parser α) : Parser (α × List Token) := do
  let before ← get
  let value ← parser
  let after ← get
  return (value, before.take (before.length - after.length))

/-- Repeats a parser until a condition holds for the tokens to come, at most so many times. -/
def untilWithin (stop : List Token → Bool) (parser : Parser α) : Nat → Parser (List α)
  | 0 => do if stop (← get) then return [] else failure
  | bound + 1 => do
      if stop (← get) then return []
      else
        let value ← parser
        return value :: (← untilWithin stop parser bound)

/-- Repeats a parser that takes tokens until a condition holds for the tokens to come. -/
def untilAhead (stop : List Token → Bool) (parser : Parser α) : Parser (List α) := do
  untilWithin stop parser (← get).length

/-- Repeats a parser until the tokens end. -/
def toEnd (parser : Parser α) : Parser (List α) :=
  untilAhead List.isEmpty parser

/-- Repeats a parser with a mark between its parts until a condition holds. A mark may follow the
last part. -/
def separatedWithin (stop : List Token → Bool) (separator : Char) (parser : Parser α)
    : Nat → Parser (List α)
  | 0 => do if stop (← get) then return [] else failure
  | bound + 1 => do
      if stop (← get) then return []
      else
        let value ← parser
        if stop (← get) then return [value]
        else
          symbol [separator]
          return value :: (← separatedWithin stop separator parser bound)

/-- Parts with a mark between each two until a condition holds. -/
def separated (stop : List Token → Bool) (separator : Char) (parser : Parser α)
    : Parser (List α) := do
  separatedWithin stop separator parser ((← get).length + 1)

/-- Parts with commas between each two until the tokens end. -/
def commaList (parser : Parser α) : Parser (List α) :=
  separated List.isEmpty ',' parser

/-- Takes the tokens before the first one that satisfies a condition, and that one too. -/
def through (last : Token → Bool) : Parser Unit := do
  match (← get).dropWhile (fun token => !last token) with
  | _ :: rest => set rest
  | [] => failure

end EntityStore.Source
