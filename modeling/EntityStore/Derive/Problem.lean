/-! What can be wrong with a declaration, and how it is reported. -/

namespace EntityStore.Derive

/-- What is wrong with the form of a list of options. -/
inductive ListProblem where
  /-- Something else stands where another kind of token has to. -/
  | expected (what : String)
  /-- The list ends where a kind of token has to follow. -/
  | ended (what : String)
  /-- The attribute has no list. -/
  | noList (path : String)
  /-- The attribute has a value instead of a list. -/
  | valueForList (path : String)
  /-- A literal stands where an option has to. -/
  | literalOption
  /-- A mark or a group stands where an option has to. -/
  | noOption
  deriving DecidableEq, Repr

namespace ListProblem

/-- The report of a problem. -/
def message : ListProblem → String
  | expected what => "expected " ++ what
  | ended what => "unexpected end of input, expected " ++ what
  | noList path =>
      "expected attribute arguments in parentheses: #[" ++ path ++ "(...)]"
  | valueForList path => "expected parentheses: #[" ++ path ++ "(...)]"
  | literalOption => "unexpected literal in nested attribute, expected ident"
  | noOption => "unexpected token in nested attribute, expected ident"

end ListProblem

/-- What is wrong with a declaration. -/
inductive Problem where
  | list (problem : ListProblem)
  /-- Settings were given as a value of an attribute. -/
  | settingsAsValue (path : String)
  /-- A setting has no value, a list, or stands alone as a literal. -/
  | settingFormat (format : String)
  /-- The value of a setting is of another type. -/
  | settingType (type : String)
  | unknownSetting (name known : String) (similar : Bool)
  | repeatedSetting (name : String)
  /-- A problem with the value of a setting. -/
  | within (setting : String) (problem : Problem)
  /-- The declaration is no structure. -/
  | noStructure (found : String)
  /-- The fields of the structure have no names. -/
  | noFieldNames (found : String)
  | genericStructure
  | secondIdentifier
  | identifierType
  | skippedIdentifier
  | unknownFieldOption
  | relationToNoEntity
  | repeatedRelationOption (name : String)
  | unknownDeleteRule
  | unknownRelationOption
  /-- The module of a service stands elsewhere. -/
  | noModuleBody
  | unknownTarget (target module : String)
  | specialQuery
  | queryReceiver
  | queryPattern
  | queryOutput
  | unknownQueried
  deriving Repr

namespace Problem

/-- The report of a problem. -/
def message : Problem → String
  | list problem => problem.message
  | settingsAsValue path =>
      "Name-value arguments are not supported. Use #[" ++ path ++ "(...)]"
  | settingFormat format => "Unexpected meta-item format `" ++ format ++ "`"
  | settingType type => "Unexpected type `" ++ type ++ "`"
  | unknownSetting name known similar =>
      if similar then "Unknown field: `" ++ name ++ "`. Did you mean `" ++ known ++ "`?"
      else "Unknown field: `" ++ name ++ "`. Available values: `" ++ known ++ "`"
  | repeatedSetting name => "Duplicate field `" ++ name ++ "`"
  | within _ problem => problem.message
  | noStructure found =>
      "Unsupported shape `" ++ found ++ "`. Expected struct with named fields."
  | noFieldNames found => "Unsupported shape `" ++ found ++ "`. Expected named fields."
  | genericStructure => "Entity cannot be derived for generic structs"
  | secondIdentifier => "Entity can have at most one #[id] field"
  | identifierType => "#[id] requires a `String` field"
  | skippedIdentifier => "#[id] field cannot be `#[field(skip)]`"
  | unknownFieldOption => "unknown field option, expected `skip`"
  | relationToNoEntity => "#[relation] is only valid on fields whose type ends in `Entity`"
  | repeatedRelationOption name => "duplicate `" ++ name ++ "`"
  | unknownDeleteRule => "expected `delete_rule = \"cascade\"` or `\"nullify\"`"
  | unknownRelationOption => "unknown relation option"
  | noModuleBody => "#[persistence_service] requires an inline module body"
  | unknownTarget target module =>
      "`" ++ target ++ "` is not an entity of module `" ++ module ++ "`"
  | specialQuery => "#[query] functions must be plain, non-async and non-generic"
  | queryReceiver => "#[query] functions take no receiver"
  | queryPattern => "#[query] parameters must be plain names"
  | queryOutput => "#[query] functions must return `QuerySpec<E>`"
  | unknownQueried => "the queried type is not an entity of this module"

/-- The report of a problem with the setting that it is in. -/
def located : Problem → String
  | within setting problem => problem.message ++ " at " ++ setting
  | problem => problem.message

end Problem

end EntityStore.Derive
