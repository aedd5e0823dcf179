import EntityStore.Text.Mark
import EntityStore.Text.Printable

/-! Quoted texts with escapes.
A quoted text shows every character that has a printed form of its own and names all others by
their number. A character that would merge with the one before it is named too.
-/

namespace EntityStore.Text

/-- The lower case hexadecimal digits of a number, without leading zeros. -/
def hexText (n : Nat) : String :=
  String.ofList (Nat.toDigits 16 n)

/-- A character that is named by its number. -/
def named (c : Char) : String :=
  "\\u\x7b" ++ hexText c.toNat ++ "\x7d"

/-- A character inside a quoted text. -/
def escaped (c : Char) : String :=
  if c = '\x00' then "\\0"
  else if c = '\t' then "\\t"
  else if c = '\r' then "\\r"
  else if c = '\n' then "\\n"
  else if c = '"' then "\\\""
  else if c = '\\' then "\\\\"
  else if isExtender c then named c
  else if isPrintable c then c.toString
  else named c

/-- The text between quotes, with escapes. -/
def quoted (text : String) : String :=
  "\"" ++ String.join (text.toList.map escaped) ++ "\""

end EntityStore.Text
