/-! The tokens of declarations.
Brackets come in pairs: a group holds the tokens between its brackets. Every mark is a token of
its own and remembers whether another mark follows at once.
-/

namespace EntityStore.Source

/-- A kind of brackets. -/
inductive Delimiter where
  | parenthesis
  | bracket
  | brace
  deriving DecidableEq, Repr

namespace Delimiter

/-- The bracket that opens a group. -/
def opening : Delimiter → Char
  | parenthesis => '('
  | bracket => '['
  | brace => '{'

/-- The bracket that closes a group. -/
def closing : Delimiter → Char
  | parenthesis => ')'
  | bracket => ']'
  | brace => '}'

end Delimiter

/-- A token. -/
inductive Token where
  /-- A name or keyword; a raw name keeps its `r#`. -/
  | name (text : String)
  /-- A mark, and whether another mark is joined to it. -/
  | mark (char : Char) (joint : Bool)
  /-- A literal as it is spelled. -/
  | literal (text : String)
  /-- A lifetime without its quote. -/
  | lifetime (name : String)
  /-- Tokens between brackets. -/
  | group (delimiter : Delimiter) (contents : List Token)
  deriving Repr, Inhabited

mutual
/-- The words of a token: those of a group start and end with its brackets. -/
def Token.words : Token → List String
  | .name text => [text]
  | .mark char _ => [char.toString]
  | .literal text => [text]
  | .lifetime name => ["'" ++ name]
  | .group delimiter contents =>
      delimiter.opening.toString :: (wordsOf contents ++ [delimiter.closing.toString])

/-- The words of tokens. -/
def wordsOf : List Token → List String
  | [] => []
  | token :: rest => token.words ++ wordsOf rest
end

/-- The text of tokens: their words with a space between each two. -/
def textOf (tokens : List Token) : String :=
  " ".intercalate (wordsOf tokens)

mutual
/-- The number of tokens in a token, itself included. -/
def Token.count : Token → Nat
  | .group _ contents => countOf contents + 1
  | _ => 1

/-- The number of tokens among tokens and inside of them. -/
def countOf : List Token → Nat
  | [] => 0
  | token :: rest => token.count + countOf rest
end

/-- The token ends an item: it is a group in braces or a semicolon. -/
def Token.endsItem : Token → Bool
  | .group .brace _ => true
  | .mark ';' _ => true
  | _ => false

/-- The tokens cut after every token that ends an item. -/
def items : List Token → List (List Token)
  | [] => []
  | token :: rest =>
      if token.endsItem then [token] :: items rest
      else
        match items rest with
        | [] => [[token]]
        | item :: others => (token :: item) :: others

/-- The marks of a text that is made of marks only, each joined to the next. -/
def marks (text : List Char) : List Token :=
  match text with
  | [] => []
  | [char] => [.mark char false]
  | char :: rest => .mark char true :: marks rest

/-- The tokens that a word is written with: a name, a lifetime, or marks. -/
def wordTokens (word : String) : List Token :=
  match word.toList with
  | [] => []
  | '\'' :: rest => [.lifetime (String.ofList rest)]
  | char :: rest => if char.isAlpha ∨ char = '_' then [.name word] else marks (char :: rest)

/-- The tokens of a text of names, lifetimes and marks with spaces between them. -/
def code (text : String) : List Token :=
  (text.splitOn " ").flatMap wordTokens

/-- Tokens in parentheses. -/
def parens (contents : List Token) : Token :=
  .group .parenthesis contents

/-- Tokens in brackets. -/
def brackets (contents : List Token) : Token :=
  .group .bracket contents

/-- Tokens in braces. -/
def braces (contents : List Token) : Token :=
  .group .brace contents

/-- Lists of tokens with a comma between each two. -/
def commaSeparated (parts : List (List Token)) : List Token :=
  (code ",").intercalate parts

end EntityStore.Source
