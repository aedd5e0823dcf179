import EntityStore.Source.Reader

/-! Names and keywords. -/

namespace EntityStore.Source

/-- The words that cannot name anything unless they are raw. -/
def keywords : List String :=
  ["_", "abstract", "as", "async", "await", "become", "box", "break", "const", "continue",
    "crate", "do", "dyn", "else", "enum", "extern", "false", "final", "fn", "for", "if", "impl",
    "in", "let", "loop", "macro", "match", "mod", "move", "mut", "override", "priv", "pub", "ref",
    "return", "Self", "self", "static", "struct", "super", "trait", "true", "try", "type",
    "typeof", "unsafe", "unsized", "use", "virtual", "where", "while", "yield"]

/-- The word can name something. -/
def isFree (word : String) : Bool :=
  !keywords.contains word

/-- The marks that start a raw name. -/
def rawMarks : List Char :=
  ['r', '#']

/-- The name without the marks of a raw name. -/
def bareName (name : String) : String :=
  if rawMarks.isPrefixOf name.toList then String.ofList (name.toList.drop 2) else name

/-- The name that a text spells, if it spells one. The text may be that of a raw name. -/
def nameOf? (text : String) : Option String :=
  if rawMarks.isPrefixOf text.toList then
    let bare := bareName text
    if Text.isIdentifier bare ∧ bare ∉ neverRaw then some text else none
  else if Text.isIdentifier text then some text
  else none

end EntityStore.Source
