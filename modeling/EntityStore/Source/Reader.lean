import EntityStore.Source.Literal
import EntityStore.Source.Token

/-! Reading tokens from a text.
Blanks and comments separate tokens. A documentation comment stands for an attribute that holds
its text. Groups that are still open are kept on a stack, the innermost first.
-/

namespace EntityStore.Source

open Text (startsIdentifier continuesIdentifier)

/-- A character that may stand between tokens. -/
def separates (c : Char) : Bool :=
  Text.isBlank c || c = '\u200e' || c = '\u200f'

/-- The rest of a line and what follows it. A carriage return before the line feed is part of
neither. -/
def restOfLine : List Char → List Char × List Char
  | [] => ([], [])
  | '\n' :: rest => ([], '\n' :: rest)
  | '\r' :: '\n' :: rest => ([], '\n' :: rest)
  | c :: rest => ((c :: (restOfLine rest).1), (restOfLine rest).2)

/-- The text of a block comment after its opening, with the closing of comments inside of it, and
what follows its own closing. -/
def blockComment : Nat → List Char → Option (List Char × List Char)
  | 0, '*' :: '/' :: rest => some ([], rest)
  | depth, '/' :: '*' :: rest => do
      let (text, rest) ← blockComment (depth + 1) rest
      return ('/' :: '*' :: text, rest)
  | depth + 1, '*' :: '/' :: rest => do
      let (text, rest) ← blockComment depth rest
      return ('*' :: '/' :: text, rest)
  | depth, c :: rest => do
      let (text, rest) ← blockComment depth rest
      return (c :: text, rest)
  | _, [] => none

/-- What follows a comment that documents nothing. -/
def plainComment : List Char → Option (List Char)
  | '/' :: '/' :: '/' :: '/' :: rest => some (restOfLine rest).2
  | '/' :: '/' :: '/' :: _ => none
  | '/' :: '/' :: '!' :: _ => none
  | '/' :: '/' :: rest => some (restOfLine rest).2
  | '/' :: '*' :: '*' :: '/' :: rest => some rest
  | '/' :: '*' :: '*' :: '*' :: rest => Prod.snd <$> blockComment 0 ('*' :: '*' :: rest)
  | '/' :: '*' :: '*' :: _ => none
  | '/' :: '*' :: '!' :: _ => none
  | '/' :: '*' :: rest => Prod.snd <$> blockComment 0 rest
  | _ => none

/-- Every carriage return is followed by a line feed. -/
def returnsPaired : List Char → Bool
  | [] => true
  | '\r' :: '\n' :: rest => returnsPaired rest
  | '\r' :: _ => false
  | _ :: rest => returnsPaired rest

/-- A documentation comment: whether it belongs to what encloses it, its text, and what follows
it. -/
def docComment (input : List Char) : Option (Bool × List Char × List Char) :=
  let found :=
    match input with
    | '/' :: '/' :: '!' :: rest => some (true, restOfLine rest)
    | '/' :: '*' :: '!' :: rest => (fun found => (true, found)) <$> blockComment 0 rest
    | '/' :: '/' :: '/' :: '/' :: _ => none
    | '/' :: '/' :: '/' :: rest => some (false, restOfLine rest)
    | '/' :: '*' :: '*' :: '*' :: _ => none
    | '/' :: '*' :: '*' :: rest => (fun found => (false, found)) <$> blockComment 0 rest
    | _ => none
  match found with
  | some (inner, text, rest) => if returnsPaired text then some (inner, text, rest) else none
  | none => none

/-- The attribute that a documentation comment stands for. -/
def docAttribute (inner : Bool) (text : List Char) : List Token :=
  code (if inner then "# !" else "#")
    ++ [brackets (code "doc =" ++ [.literal (stringLiteral (String.ofList text))])]

/-- The characters that are marks. -/
def markChars : List Char :=
  "~!@#$%^&*-=+|;:,<.>/?'".toList

/-- A mark stands at the front, and no comment does. -/
def startsMark : List Char → Bool
  | '/' :: '/' :: _ => false
  | '/' :: '*' :: _ => false
  | c :: _ => markChars.contains c
  | [] => false

/-- The names that cannot be raw. -/
def neverRaw : List String :=
  ["_", "super", "self", "Self", "crate"]

/-- The characters up to a rest of theirs, as a text. -/
def takenUntil (input rest : List Char) : String :=
  String.ofList (input.take (input.length - rest.length))

/-- A name, raw or not, and what follows it. -/
def anyName (input : List Char) : Option (String × List Char) :=
  match input with
  | 'r' :: '#' :: name => do
      let rest ← plainName name
      if takenUntil name rest ∈ neverRaw then none else return (takenUntil input rest, rest)
  | input => do
      let rest ← plainName input
      return (takenUntil input rest, rest)

/-- The beginnings of quoted literals that look like names. -/
def literalBeginnings : List String :=
  ["r\"", "r#\"", "r##", "b\"", "b'", "br\"", "br#", "c\"", "cr\"", "cr#"]

/-- A mark, or a lifetime, and what follows it. -/
def markOrLifetime (input : List Char) : Option (Token × List Char) :=
  match input with
  | '\'' :: rest => do
      let (name, after) ← anyName rest
      match after with
      | '\'' :: _ => none
      | '#' :: _ => if ['r', '#'].isPrefixOf rest then some (.lifetime name, after) else none
      | _ => some (.lifetime name, after)
  | c :: rest => if startsMark input then some (.mark c (startsMark rest), rest) else none
  | [] => none

/-- A name that does not begin a quoted literal, and what follows it. -/
def nameToken (input : List Char) : Option (Token × List Char) :=
  if literalBeginnings.any (fun beginning => beginning.toList.isPrefixOf input) then none
  else (fun (name, rest) => (.name name, rest)) <$> anyName input

/-- A token that is no group, and what follows it. -/
def leaf (input : List Char) : Option (Token × List Char) :=
  (fun rest => (.literal (takenUntil input rest), rest)) <$> literalEnd input
    <|> markOrLifetime input
    <|> nameToken input

/-- The brackets that a character opens. -/
def opened? : Char → Option Delimiter
  | '(' => some .parenthesis
  | '[' => some .bracket
  | '{' => some .brace
  | _ => none

/-- The brackets that a character closes. -/
def closed? : Char → Option Delimiter
  | ')' => some .parenthesis
  | ']' => some .bracket
  | '}' => some .brace
  | _ => none

/-- The tokens of a text, in at most so many steps. The groups that are open keep the tokens before
them; tokens are collected last first. -/
def readWithin : Nat → List (Delimiter × List Token) → List Token → List Char
    → Option (List Token)
  | 0, _, _, _ => none
  | _ + 1, [], done, [] => some done.reverse
  | _ + 1, _ :: _, _, [] => none
  | bound + 1, outer, done, c :: rest =>
      if separates c then readWithin bound outer done rest
      else
        match plainComment (c :: rest), docComment (c :: rest) with
        | some rest, _ => readWithin bound outer done rest
        | none, some (inner, text, rest) =>
            readWithin bound outer ((docAttribute inner text).reverse ++ done) rest
        | none, none =>
            match opened? c, closed? c, outer with
            | some delimiter, _, _ => readWithin bound ((delimiter, done) :: outer) [] rest
            | none, some closing, (delimiter, before) :: outer =>
                if delimiter = closing then
                  readWithin bound outer (.group delimiter done.reverse :: before) rest
                else none
            | none, some _, [] => none
            | none, none, outer => do
                let (token, rest) ← leaf (c :: rest)
                readWithin bound outer (token :: done) rest

/-- The tokens of a text, which may start with a byte order mark. Every step takes a character. -/
def read? (text : String) : Option (List Token) :=
  let input :=
    match text.toList with
    | '\ufeff' :: rest => rest
    | rest => rest
  readWithin (input.length + 1) [] [] input

end EntityStore.Source
