import EntityStore.Json.Basic

/-! Reading a document from its text.
The text is cut into tokens, and the tokens are read by descent. Every step of either consumes
input, so the length of the input bounds both. What numbers and strings mean is left open here:
only their form is checked.
-/

namespace EntityStore.Json

/-- A piece of a string literal: a character, or a unit that an escape names by its number. -/
inductive Piece where
  | char (c : Char)
  | code (unit : Nat)
  deriving DecidableEq, Repr

/-- The value of a hexadecimal digit in either case. -/
def hexValue? (c : Char) : Option Nat :=
  if '0' ≤ c ∧ c ≤ '9' then some (c.toNat - 48)
  else if 'a' ≤ c ∧ c ≤ 'f' then some (c.toNat - 87)
  else if 'A' ≤ c ∧ c ≤ 'F' then some (c.toNat - 55)
  else none

/-- The number that hexadecimal digits stand for. -/
def hexNumber? (digits : List Char) : Option Nat :=
  digits.foldl (fun n c => do return 16 * (← n) + (← hexValue? c)) (some 0)

/-- The character that a one letter escape stands for. -/
def unescape? (c : Char) : Option Char :=
  match c with
  | '"' => some '"'
  | '\\' => some '\\'
  | '/' => some '/'
  | 'b' => some '\x08'
  | 'f' => some '\x0c'
  | 'n' => some '\n'
  | 'r' => some '\r'
  | 't' => some '\t'
  | _ => none

/-- The pieces up to the closing quote, and what follows it. -/
def scanString : List Char → Option (List Piece × List Char)
  | '"' :: rest => some ([], rest)
  | '\\' :: 'u' :: a :: b :: c :: d :: rest => do
      let unit ← hexNumber? [a, b, c, d]
      let (pieces, rest) ← scanString rest
      return (.code unit :: pieces, rest)
  | '\\' :: c :: rest => do
      let c ← unescape? c
      let (pieces, rest) ← scanString rest
      return (.char c :: pieces, rest)
  | c :: rest =>
      if c = '\\' ∨ c.toNat < 32 then none
      else do
        let (pieces, rest) ← scanString rest
        return (.char c :: pieces, rest)
  | [] => none

/-- The unit is the first half of a surrogate pair. -/
def leads (unit : Nat) : Bool :=
  0xd800 ≤ unit ∧ unit ≤ 0xdbff

/-- The unit is the second half of a surrogate pair. -/
def trails (unit : Nat) : Bool :=
  0xdc00 ≤ unit ∧ unit ≤ 0xdfff

/-- The characters of the pieces: surrogates only in pairs. -/
def content? : List Piece → Option (List Char)
  | [] => some []
  | .char c :: rest => (content? rest).map (c :: ·)
  | .code first :: .code second :: rest =>
      if leads first then
        if trails second then
          (content? rest).map
            (Char.ofNat (0x10000 + (first - 0xd800) * 0x400 + (second - 0xdc00)) :: ·)
        else none
      else if trails first then none
      else (content? (.code second :: rest)).map (Char.ofNat first :: ·)
  | .code unit :: rest =>
      if leads unit ∨ trails unit then none
      else (content? rest).map (Char.ofNat unit :: ·)

/-- A decimal digit. -/
def isDigit (c : Char) : Bool :=
  '0' ≤ c ∧ c ≤ '9'

/-- The digits at the front, and what follows them. -/
def digits (input : List Char) : List Char × List Char :=
  (input.takeWhile isDigit, input.dropWhile isDigit)

/-- A whole part: one zero, or digits that start with another one. -/
def scanWhole (input : List Char) : Option (List Char × List Char) :=
  match digits input with
  | ([], _) => none
  | ('0' :: _ :: _, _) => none
  | (whole, rest) => some (whole, rest)

/-- A fraction, if a point starts one: at least one digit. -/
def scanFraction : List Char → Option (List Char × List Char)
  | '.' :: input =>
      match digits input with
      | ([], _) => none
      | (fraction, rest) => some ('.' :: fraction, rest)
  | input => some ([], input)

/-- An exponent, if a letter starts one: a sign or none, and at least one digit. -/
def scanExponent (input : List Char) : Option (List Char × List Char) :=
  match input with
  | c :: rest =>
      if c = 'e' ∨ c = 'E' then
        let (sign, rest) :=
          match rest with
          | '+' :: rest => (['+'], rest)
          | '-' :: rest => (['-'], rest)
          | rest => ([], rest)
        match digits rest with
        | ([], _) => none
        | (exponent, rest) => some (c :: sign ++ exponent, rest)
      else some ([], input)
  | [] => some ([], [])

/-- A number literal and what follows it. -/
def scanNumber (input : List Char) : Option (List Char × List Char) := do
  let (sign, rest) :=
    match input with
    | '-' :: rest => (['-'], rest)
    | rest => ([], rest)
  let (whole, rest) ← scanWhole rest
  let (fraction, rest) ← scanFraction rest
  let (exponent, rest) ← scanExponent rest
  return (sign ++ whole ++ fraction ++ exponent, rest)

/-- A token of a document. -/
inductive Token where
  | atom (value : Json)
  | open (object : Bool)
  | close (object : Bool)
  | colon
  | comma
  deriving Repr, Inhabited

/-- The characters that may stand between tokens. -/
def isBlank (c : Char) : Bool :=
  c = ' ' ∨ c = '\n' ∨ c = '\t' ∨ c = '\r'

/-- The token at the front of a text that starts with no blank. -/
def scanToken (input : List Char) : Option (Token × List Char) :=
  match input with
  | '[' :: rest => some (.open false, rest)
  | ']' :: rest => some (.close false, rest)
  | '{' :: rest => some (.open true, rest)
  | '}' :: rest => some (.close true, rest)
  | ':' :: rest => some (.colon, rest)
  | ',' :: rest => some (.comma, rest)
  | 'n' :: 'u' :: 'l' :: 'l' :: rest => some (.atom .null, rest)
  | 't' :: 'r' :: 'u' :: 'e' :: rest => some (.atom (.bool true), rest)
  | 'f' :: 'a' :: 'l' :: 's' :: 'e' :: rest => some (.atom (.bool false), rest)
  | '"' :: rest => do
      let (pieces, rest) ← scanString rest
      return (.atom (.string ((content? pieces).map String.ofList)), rest)
  | input => do
      let (literal, rest) ← scanNumber input
      return (.atom (.number (String.ofList literal)), rest)

/-- The tokens of a text, at most as many as the first argument says. -/
def tokensWithin : Nat → List Char → Option (List Token)
  | bound, input =>
      match input.dropWhile isBlank, bound with
      | [], _ => some []
      | _ :: _, 0 => none
      | c :: rest, bound + 1 => do
          let (token, rest) ← scanToken (c :: rest)
          let tokens ← tokensWithin bound rest
          return token :: tokens

/-- The tokens of a text. Every token has a character, so the length of the text bounds them. -/
def tokens (input : List Char) : Option (List Token) :=
  tokensWithin input.length input

mutual
/-- The document at the front of the tokens. -/
def readValue : Nat → List Token → Option (Json × List Token)
  | _, .atom value :: rest => some (value, rest)
  | _, .open false :: .close false :: rest => some (.array [], rest)
  | _, .open true :: .close true :: rest => some (.object [], rest)
  | bound + 1, .open false :: rest => do
      let (elements, rest) ← readElements bound rest
      return (.array elements, rest)
  | bound + 1, .open true :: rest => do
      let (members, rest) ← readMembers bound rest
      return (.object members, rest)
  | _, _ => none

/-- Elements up to the closing bracket. -/
def readElements : Nat → List Token → Option (List Json × List Token)
  | 0, _ => none
  | bound + 1, tokens => do
      let (element, rest) ← readValue bound tokens
      match rest with
      | .close false :: rest => return ([element], rest)
      | .comma :: rest =>
          let (elements, rest) ← readElements bound rest
          return (element :: elements, rest)
      | _ => none

/-- Members up to the closing brace. -/
def readMembers : Nat → List Token → Option (List (Option String × Json) × List Token)
  | 0, _ => none
  | bound + 1, .atom (.string key) :: .colon :: tokens => do
      let (value, rest) ← readValue bound tokens
      match rest with
      | .close true :: rest => return ([(key, value)], rest)
      | .comma :: rest =>
          let (members, rest) ← readMembers bound rest
          return ((key, value) :: members, rest)
      | _ => none
  | _ + 1, _ => none
end

/-- The document that a text holds, and nothing but it. Every level of the descent consumes a
token, or is followed by one that does, so twice the number of tokens bounds it. -/
def read? (input : String) : Option Json := do
  let tokens ← tokens input.toList
  match ← readValue (2 * tokens.length) tokens with
  | (value, []) => some value
  | _ => none

end EntityStore.Json
