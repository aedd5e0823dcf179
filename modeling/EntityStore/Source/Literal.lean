import EntityStore.Json.Reader
import EntityStore.Text.Identifier
import EntityStore.Text.Quoted
import EntityStore.Text.Range

/-! The literals of declarations.
A scanner takes a literal, or a part of one, from the front of the characters and gives what
follows it. The value of a string literal is the text that it stands for.
-/

namespace EntityStore.Source

open Text (isBlank startsIdentifier continuesIdentifier)
open Json (hexValue?)

/-- What follows the characters that a scanner takes. -/
abbrev Scanner := List Char → Option (List Char)

-----------------------------------------------------------------------------------------
-- Names
-----------------------------------------------------------------------------------------

/-- What follows a name that is not raw. -/
def plainName : Scanner
  | c :: rest => if startsIdentifier c then some (rest.dropWhile continuesIdentifier) else none
  | [] => none

/-- What follows a suffix, which may be missing. -/
def afterSuffix (input : List Char) : List Char :=
  (plainName input).getD input

/-- The characters, if no name goes on at their front. -/
def wordBreak : Scanner
  | c :: rest => if continuesIdentifier c then none else some (c :: rest)
  | [] => some []

-----------------------------------------------------------------------------------------
-- Escapes
-----------------------------------------------------------------------------------------

/-- What the escapes of a literal may be. -/
structure EscapeRules where
  /-- Characters may be named by their number in braces. -/
  unicode : Bool
  /-- A code of two digits may be above the seven bit range. -/
  wide : Bool
  /-- The character of number zero may be escaped. -/
  zero : Bool
  /-- Characters may stand unescaped although they are no seven bit characters. -/
  text : Bool
  deriving DecidableEq, Repr

namespace EscapeRules

/-- The rules of texts and characters. -/
def forText : EscapeRules := ⟨true, false, true, true⟩

/-- The rules of bytes. -/
def forBytes : EscapeRules := ⟨false, true, true, false⟩

/-- The rules of texts that end with a zero. -/
def forZeroEnded : EscapeRules := ⟨true, true, false, true⟩

end EscapeRules

/-- The number of two hexadecimal digits, and what follows them. -/
def twoDigits : List Char → Option (Nat × List Char)
  | a :: b :: rest => do return (16 * (← hexValue? a) + (← hexValue? b), rest)
  | _ => none

/-- The number that one to six hexadecimal digits up to a closing brace stand for, and what follows
the brace. Underscores may stand after the first digit. -/
def bracedNumber (count value : Nat) : List Char → Option (Nat × List Char)
  | [] => none
  | c :: rest =>
      if c = '_' ∧ count > 0 then bracedNumber count value rest
      else if c = '}' ∧ count > 0 then some (value, rest)
      else
        match hexValue? c with
        | some digit => if count = 6 then none else bracedNumber (count + 1) (16 * value + digit) rest
        | none => none

/-- The character of a number, if the number is one of a character. -/
def charOf? (number : Nat) : Option Char :=
  if number.isValidChar then some (Char.ofNat number) else none

/-- The character that an escape stands for, and what follows the escape. The characters start
after the backslash. -/
def escape (rules : EscapeRules) : List Char → Option (Char × List Char)
  | 'x' :: rest => do
      let (number, rest) ← twoDigits rest
      if (rules.wide ∨ number < 128) ∧ (rules.zero ∨ number ≠ 0) then
        return (Char.ofNat number, rest)
      else none
  | 'u' :: '{' :: rest => do
      let (number, rest) ← bracedNumber 0 0 rest
      let c ← charOf? number
      if rules.unicode ∧ (rules.zero ∨ number ≠ 0) then return (c, rest) else none
  | 'n' :: rest => some ('\n', rest)
  | 'r' :: rest => some ('\r', rest)
  | 't' :: rest => some ('\t', rest)
  | '\\' :: rest => some ('\\', rest)
  | '\'' :: rest => some ('\'', rest)
  | '"' :: rest => some ('"', rest)
  | '0' :: rest => if rules.zero then some ('\x00', rest) else none
  | _ => none

-----------------------------------------------------------------------------------------
-- Quoted literals
-----------------------------------------------------------------------------------------

/-- What follows the blanks after a backslash at the end of a line. A carriage return stands before
a line feed only. -/
def continuedLine : Scanner
  | [] => none
  | '\r' :: '\n' :: rest => continuedLine rest
  | '\r' :: _ => none
  | c :: rest => if c = ' ' ∨ c = '\t' ∨ c = '\n' then continuedLine rest else some (c :: rest)

/-- What follows the closing quote of a text with escapes, in at most so many steps. -/
def quotedWithin (rules : EscapeRules) : Nat → Scanner
  | 0, _ => none
  | _, [] => none
  | _, '"' :: rest => some rest
  | bound + 1, '\r' :: '\n' :: rest => quotedWithin rules bound rest
  | _, '\r' :: _ => none
  | bound + 1, '\\' :: '\n' :: rest => do quotedWithin rules bound (← continuedLine ('\n' :: rest))
  | bound + 1, '\\' :: '\r' :: rest => do quotedWithin rules bound (← continuedLine ('\r' :: rest))
  | bound + 1, '\\' :: rest => do quotedWithin rules bound (← escape rules rest).2
  | bound + 1, c :: rest =>
      if (rules.text ∨ c.toNat < 128) ∧ (rules.zero ∨ c ≠ '\x00') then
        quotedWithin rules bound rest
      else none

/-- What follows the closing quote of a text with escapes. Every step takes a character. -/
def quotedText (rules : EscapeRules) (input : List Char) : Option (List Char) :=
  quotedWithin rules (input.length + 1) input

/-- What follows the end of a raw text: a quote and as many hashes as it started with. -/
def rawText (rules : EscapeRules) (hashes : List Char) : Scanner
  | [] => none
  | '\r' :: '\n' :: rest => rawText rules hashes rest
  | '\r' :: _ => none
  | c :: rest =>
      if c = '"' ∧ hashes.isPrefixOf rest then some (rest.drop hashes.length)
      else if (rules.text ∨ c.toNat < 128) ∧ (rules.zero ∨ c ≠ '\x00') then
        rawText rules hashes rest
      else none

/-- What follows a raw text that starts with its hashes, at most 255 of them. -/
def hashedText (rules : EscapeRules) (input : List Char) : Option (List Char) :=
  let hashes := input.takeWhile (· = '#')
  match input.drop hashes.length with
  | '"' :: rest => if hashes.length ≤ 255 then rawText rules hashes rest else none
  | _ => none

/-- What follows one character or escape and a closing quote. -/
def quotedChar (rules : EscapeRules) : Scanner
  | '\\' :: rest => do
      match ← escape rules rest with
      | (_, '\'' :: rest) => some rest
      | _ => none
  | c :: '\'' :: rest => if rules.text ∨ c.toNat < 128 then some rest else none
  | _ => none

/-- What follows a text, a character, bytes or a byte. -/
def quotedLiteral (input : List Char) : Option (List Char) :=
  let rest :=
    match input with
    | '"' :: rest => quotedText .forText rest
    | 'r' :: rest => hashedText .forText rest
    | '\'' :: rest => quotedChar .forText rest
    | 'b' :: '"' :: rest => quotedText .forBytes rest
    | 'b' :: 'r' :: rest => hashedText .forBytes rest
    | 'b' :: '\'' :: rest => quotedChar .forBytes rest
    | 'c' :: '"' :: rest => quotedText .forZeroEnded rest
    | 'c' :: 'r' :: rest => hashedText .forZeroEnded rest
    | _ => none
  rest.map afterSuffix

-----------------------------------------------------------------------------------------
-- Numbers
-----------------------------------------------------------------------------------------

/-- A decimal digit. -/
def isDigit (c : Char) : Bool :=
  '0' ≤ c ∧ c ≤ '9'

/-- A decimal digit or an underscore. -/
def isDigitOrBreak (c : Char) : Bool :=
  isDigit c || c = '_'

/-- What follows the sign and digits of an exponent: at least one digit. -/
def exponent (input : List Char) : Option (List Char) :=
  let unsigned := (input.dropWhile (· = '_'))
  let rest :=
    match unsigned with
    | '+' :: rest => rest
    | '-' :: rest => rest
    | rest => rest
  if (rest.takeWhile isDigitOrBreak).any isDigit then some (rest.dropWhile isDigitOrBreak) else none

/-- What follows digits with a point or an exponent. A point is none of theirs when a name or
another point follows it. -/
def decimalPart (input : List Char) : Option (List Char) := do
  let c ← input.head?
  if !isDigit c then failure
  let whole := input.dropWhile isDigitOrBreak
  match whole with
  | '.' :: rest =>
      match rest.head? with
      | some next => if next = '.' ∨ startsIdentifier next then failure
      | none => pure ()
      let fraction := rest.dropWhile isDigitOrBreak
      match fraction with
      | mark :: after =>
          if mark = 'e' ∨ mark = 'E' then return (exponent after).getD fraction
          else return fraction
      | [] => return []
  | mark :: after => if mark = 'e' ∨ mark = 'E' then exponent after else failure
  | [] => failure

/-- What follows a decimal fraction with its suffix. -/
def fractionLiteral (input : List Char) : Option (List Char) := do
  wordBreak (afterSuffix (← decimalPart input))

/-- The base that a whole number is written in, and its digits. -/
def baseOf : List Char → Nat × List Char
  | '0' :: 'x' :: rest => (16, rest)
  | '0' :: 'o' :: rest => (8, rest)
  | '0' :: 'b' :: rest => (2, rest)
  | rest => (10, rest)

/-- What follows the digits of a base. A letter that is no digit ends them, and a decimal digit that
is too large is none of a number. -/
def digitsOf (base : Nat) (found : Bool) : Scanner
  | [] => if found then some [] else none
  | c :: rest =>
      if c = '_' then if !found && base = 10 then none else digitsOf base found rest
      else
        match hexValue? c with
        | some digit =>
            if digit < base then digitsOf base true rest
            else if isDigit c then none
            else if found then some (c :: rest) else none
        | none => if found then some (c :: rest) else none

/-- What follows a whole number with its suffix. -/
def wholeLiteral (input : List Char) : Option (List Char) := do
  let (base, digits) := baseOf input
  wordBreak (afterSuffix (← digitsOf base false digits))

/-- What follows a literal. -/
def literalEnd (input : List Char) : Option (List Char) :=
  quotedLiteral input <|> fractionLiteral input <|> wholeLiteral input

-----------------------------------------------------------------------------------------
-- Kinds and values
-----------------------------------------------------------------------------------------

/-- What a literal stands for. -/
inductive LiteralKind where
  | string
  | byteString
  | zeroEndedString
  | byte
  | char
  | int
  | float
  deriving DecidableEq, Repr

/-- The kind of a literal. A number is a fraction when it has a point or an exponent. -/
def literalKind (text : String) : LiteralKind :=
  match text.toList with
  | '"' :: _ => .string
  | 'r' :: _ => .string
  | '\'' :: _ => .char
  | 'b' :: '\'' :: _ => .byte
  | 'b' :: _ => .byteString
  | 'c' :: _ => .zeroEndedString
  | chars => if (fractionLiteral chars).isSome then .float else .int

/-- The characters of a text with escapes up to its closing quote, in at most so many steps. -/
def unescapedWithin : Nat → List Char → Option (List Char)
  | 0, _ => none
  | _, [] => none
  | _, '"' :: _ => some []
  | bound + 1, '\r' :: '\n' :: rest => ('\n' :: ·) <$> unescapedWithin bound rest
  | bound + 1, '\\' :: '\n' :: rest => unescapedWithin bound (rest.dropWhile isBlank)
  | bound + 1, '\\' :: '\r' :: rest => unescapedWithin bound (rest.dropWhile isBlank)
  | bound + 1, '\\' :: rest => do
      let (c, rest) ← escape .forText rest
      (c :: ·) <$> unescapedWithin bound rest
  | bound + 1, c :: rest => (c :: ·) <$> unescapedWithin bound rest

/-- The characters of a raw text up to its closing quote and hashes. -/
def rawCharacters (hashes : List Char) : List Char → List Char
  | [] => []
  | c :: rest =>
      if c = '"' ∧ hashes.isPrefixOf rest then [] else c :: rawCharacters hashes rest

/-- The text that a string literal stands for. -/
def stringValue? (text : String) : Option String :=
  match text.toList with
  | '"' :: rest => String.ofList <$> unescapedWithin (rest.length + 1) rest
  | 'r' :: rest =>
      let hashes := rest.takeWhile (· = '#')
      some (String.ofList (rawCharacters hashes (rest.drop (hashes.length + 1))))
  | _ => none

-----------------------------------------------------------------------------------------
-- Writing string literals
-----------------------------------------------------------------------------------------

/-- The characters of a literal for a text. The character of number zero has a longer name where a
digit follows it. -/
def literalChars : List Char → List String
  | [] => []
  | '\x00' :: c :: rest =>
      (if '0' ≤ c ∧ c ≤ '7' then "\\x00" else "\\0") :: literalChars (c :: rest)
  | '\'' :: rest => "'" :: literalChars rest
  | c :: rest => Text.escaped c :: literalChars rest

/-- The literal of a text. -/
def stringLiteral (text : String) : String :=
  "\"" ++ String.join (literalChars text.toList) ++ "\""

end EntityStore.Source
