/-! Structured data texts.
A document is kept close to its text: a number is its literal, and a string whose escapes name half
of a surrogate pair has no content. Whoever reads a part of a document decides what it means, so
parts that nobody reads may hold numbers out of any range.
-/

namespace EntityStore

/-- A document. -/
inductive Json where
  | null
  | bool (value : Bool)
  | number (literal : String)
  | string (content : Option String)
  | array (elements : List Json)
  | object (members : List (Option String × Json))
  deriving Repr, Inhabited

namespace Json

/-- A string with content. -/
def text (content : String) : Json :=
  .string (some content)

/-- An object whose keys have content. -/
def record (members : List (String × Json)) : Json :=
  .object (members.map (fun member => (some member.1, member.2)))

/-- The digit of a hexadecimal place, in lower case. -/
def hexDigit (n : Nat) : Char :=
  Nat.digitChar (n % 16)

/-- A character inside a string literal. Quotes, backslashes and control characters are escaped. -/
def escape (c : Char) : List Char :=
  if c = '"' then ['\\', '"']
  else if c = '\\' then ['\\', '\\']
  else if c = '\n' then ['\\', 'n']
  else if c = '\r' then ['\\', 'r']
  else if c = '\t' then ['\\', 't']
  else if c = '\x08' then ['\\', 'b']
  else if c = '\x0c' then ['\\', 'f']
  else if c.toNat < 32 then ['\\', 'u', '0', '0', hexDigit (c.toNat / 16), hexDigit c.toNat]
  else [c]

/-- The literal of a string. -/
def quote (content : String) : String :=
  "\"" ++ String.ofList (content.toList.flatMap escape) ++ "\""

mutual
/-- The compact text of a document. A string without content is written as an empty one. -/
def render : Json → String
  | .null => "null"
  | .bool value => if value then "true" else "false"
  | .number literal => literal
  | .string content => quote (content.getD "")
  | .array elements => "[" ++ renderElements elements ++ "]"
  | .object members => "\x7b" ++ renderMembers members ++ "\x7d"

/-- Elements between commas. -/
def renderElements : List Json → String
  | [] => ""
  | [element] => element.render
  | element :: rest => element.render ++ "," ++ renderElements rest

/-- Members between commas. -/
def renderMembers : List (Option String × Json) → String
  | [] => ""
  | [(key, value)] => quote (key.getD "") ++ ":" ++ value.render
  | (key, value) :: rest =>
      quote (key.getD "") ++ ":" ++ value.render ++ "," ++ renderMembers rest
end

end Json

end EntityStore
