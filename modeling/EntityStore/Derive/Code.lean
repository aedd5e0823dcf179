import EntityStore.Source.Literal
import EntityStore.Source.Token

/-! Pieces of code that declarations are turned into. -/

namespace EntityStore.Derive

open Source

/-- A name. -/
def nameCode (name : String) : List Token :=
  [.name name]

/-- The literal of a text. -/
def textCode (text : String) : List Token :=
  [.literal (stringLiteral text)]

/-- A truth value. -/
def flagCode (flag : Bool) : List Token :=
  [.name (if flag then "true" else "false")]

/-- Something of the library that the code uses. -/
def runtime (path : String) : List Token :=
  code (":: persist_core :: " ++ path)

/-- A call with arguments. -/
def callCode (function : List Token) (arguments : List (List Token)) : List Token :=
  function ++ [parens (commaSeparated arguments)]

/-- A type with arguments. -/
def angleCode (type : List Token) (arguments : List (List Token)) : List Token :=
  type ++ code "<" ++ commaSeparated arguments ++ code ">"

/-- An attribute. -/
def attributeCode (contents : List Token) : List Token :=
  code "#" ++ [brackets contents]

/-- Documentation that is made for an entity. -/
def docCode (text : String) : List Token :=
  attributeCode (code "doc =" ++ textCode text)

/-- Documentation that is the same for all. -/
def fixedDocCode (text : String) : List Token :=
  attributeCode (code "doc =" ++ [.literal ("r\"" ++ text ++ "\"")])

/-- A remark that an answer should be used. -/
def mustUseCode : List Token :=
  attributeCode (code "must_use")

/-- Implementations that are made for a type. -/
def deriveCode : List Token :=
  attributeCode (callCode (code "derive") [code "Debug", code "Clone"])

/-- A report that stands in the place of code. -/
def errorCode (message : String) : List Token :=
  code ":: core :: compile_error !" ++ [braces (textCode message)]

end EntityStore.Derive
