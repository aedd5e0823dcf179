import EntityStore.Derive.Problem
import EntityStore.Source.Attribute
import EntityStore.Text.Similarity

/-! Lists of options and of settings in attributes.
Options are read one by one until the first problem, which hides the rest of their list. Settings
are read as a list first, and then each of them can have its own problem.
-/

namespace EntityStore.Derive

open Source

/-- A reader of tokens from the front that says what is wrong. -/
abbrev OptionParser (α : Type) := StateT (List Token) (Except Problem) α

/-- Stops with a problem of the list. -/
def reject (problem : ListProblem) : OptionParser α :=
  throw (.list problem)

/-- Stops because something is missing, or something else stands in its place. -/
def missing (what : String) : OptionParser α := do
  if (← get).isEmpty then reject (.ended what) else reject (.expected what)

/-- A mark. -/
def mark (char : Char) : OptionParser Unit := do
  let tokens ← get
  if startsSymbol [char] tokens then set (tokens.drop 1)
  else reject (.expected ("`" ++ char.toString ++ "`"))

/-- What a parser reads, or a report of what is missing. -/
def orMissing (what : String) (parser : Parser α) : OptionParser α := do
  match parser (← get) with
  | some (value, rest) =>
      set rest
      return value
  | none => missing what

/-- A name or keyword of a path. -/
def pathWord : OptionParser String :=
  orMissing "ident" anyWord

/-- The words of a path after its first word. -/
def pathWords (bound : Nat) : OptionParser (List String) :=
  match bound with
  | 0 => return []
  | bound + 1 => do
      let tokens ← get
      if startsPathSeparator tokens then
        set (tokens.drop 2)
        let word ← pathWord
        return word :: (← pathWords bound)
      else return []

/-- A path of names and keywords. -/
def optionPath : OptionParser AttributePath := do
  let rooted := startsPathSeparator (← get)
  if rooted then modify (·.drop 2)
  let first ← pathWord
  return { rooted, names := first :: (← pathWords (← get).length) }

/-- The path of an option. -/
def optionName : OptionParser AttributePath := do
  let tokens ← get
  let rest := if startsPathSeparator tokens then tokens.drop 2 else tokens
  if startsAnyWord rest then optionPath
  else if rest.isEmpty then reject (.ended "nested attribute")
  else if startsLiteral rest then reject .literalOption
  else reject .noOption

/-- Options with commas between them, each of which a step takes in, at most so many. -/
def optionsWithin (step : σ → AttributePath → OptionParser σ) : Nat → σ → OptionParser σ
  | 0, state => return state
  | bound + 1, state => do
      if (← get).isEmpty then return state
      let state ← step state (← optionName)
      if (← get).isEmpty then return state
      mark ','
      optionsWithin step bound state

/-- The options of an attribute, each of which a step takes in. -/
def readOptions (step : σ → AttributePath → OptionParser σ) (initial : σ) (self : Attribute)
    : Except Problem σ :=
  match self.arguments with
  | .none => throw (.list (.noList self.path.text))
  | .value _ => throw (.list (.valueForList self.path.text))
  | .list contents =>
      Prod.fst <$> (optionsWithin step (contents.length + 1) initial).run contents

/-- The text after an equals sign. -/
def textValue : OptionParser String := do
  mark '='
  match ← get with
  | .literal literal :: rest =>
      match stringValue? literal with
      | some text =>
          set rest
          return text
      | none => missing "string literal"
  | _ => missing "string literal"

/-- An element of a list of settings. -/
inductive Setting where
  /-- A literal without a name. -/
  | literal
  | word (name : String)
  | list (name : String)
  | value (name : String) (value : Expression)
  deriving Repr

/-- The element at the front is a literal. A truth value before an equals sign is a name. -/
def startsBareLiteral (tokens : List Token) : Bool :=
  match tokens with
  | .name _ :: rest => startsLiteral tokens && !startsSymbol ['='] rest
  | _ => startsLiteral tokens

/-- An element of a list of settings. -/
def setting : OptionParser Setting := do
  let tokens ← get
  let rest := if startsPathSeparator tokens then tokens.drop 2 else tokens
  if startsBareLiteral tokens then
    set (match tokens with
      | .mark _ _ :: rest => rest.drop 1
      | rest => rest.drop 1)
    return .literal
  else if startsAnyWord rest then
    let name := (← optionPath).text
    match ← get with
    | .group _ _ :: rest =>
        set rest
        return .list name
    | tokens =>
        if startsSymbol ['='] tokens then
          set (tokens.drop 1)
          return .value name (← orMissing "an expression" valueExpression)
        else return .word name
  else reject (.expected "identifier or literal")

/-- Settings with commas between them, at most so many. -/
def settingsWithin : Nat → OptionParser (List Setting)
  | 0 => return []
  | bound + 1 => do
      if (← get).isEmpty then return []
      let first ← setting
      if (← get).isEmpty then return [first]
      mark ','
      return first :: (← settingsWithin bound)

/-- The settings in a list. -/
def readSettings (contents : List Token) : Except Problem (List Setting) :=
  Prod.fst <$> (settingsWithin (contents.length + 1)).run contents

/-- The name of the type of a value that is no text. -/
def typeName : Expression → String
  | .truth => "bool"
  | .form name => name
  | .literal text =>
      match literalKind text with
      | .string => "string"
      | .byteString => "byte string"
      | .zeroEndedString => "unknown"
      | .byte => "byte"
      | .char => "char"
      | .int => "int"
      | .float => "float"

/-- The text that a value is. -/
def textOf? (value : Expression) : Except Problem String :=
  match value with
  | .literal literal =>
      match stringValue? literal with
      | some text => pure text
      | none => throw (.settingType (typeName value))
  | value => throw (.settingType (typeName value))

/-- What has been found of the one setting that there can be, a text. -/
structure TextSetting where
  /-- The setting was given, if only with a value that it cannot have. -/
  given : Bool
  text : Option String
  problems : List Problem
  deriving Repr

namespace TextSetting

/-- Nothing has been found. -/
def empty : TextSetting := ⟨false, none, []⟩

/-- What has been found, with another problem. -/
def report (found : TextSetting) (problem : Problem) : TextSetting :=
  { found with problems := found.problems ++ [problem] }

/-- What has been found after the value of the setting. -/
def give (found : TextSetting) (name : String) (value : Except Problem String) : TextSetting :=
  if found.given then found.report (.repeatedSetting name)
  else
    match value with
    | .ok text => { found with given := true, text := some text }
    | .error problem => { found with given := true }.report (.within name problem)

/-- What has been found after a setting of some name, where one name is known. -/
def giveNamed (found : TextSetting) (known name : String)
    (value : Except Problem String)
    : TextSetting :=
  if name = known then found.give name value
  else found.report (.unknownSetting name known (Text.mayMean name known))

/-- What has been found after an element of a list, where one name is known. -/
def take (known : String) (found : TextSetting) : Setting → TextSetting
  | .literal => found.report (.settingFormat "literal")
  | .word name => found.giveNamed known name (throw (.settingFormat "word"))
  | .list name => found.giveNamed known name (throw (.settingFormat "list"))
  | .value name value => found.giveNamed known name (textOf? value)

/-- What has been found after a list of settings, where one name is known. -/
def takeList (known : String) (found : TextSetting) (contents : List Token) : TextSetting :=
  match readSettings contents with
  | .ok settings => settings.foldl (take known) found
  | .error problem => found.report problem

end TextSetting

end EntityStore.Derive
