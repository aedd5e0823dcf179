import EntityStore.Text.Decomposition
import EntityStore.Text.Letter
import EntityStore.Text.Mark

/-! Folding of case and diacritics.
A text is decomposed, its marks are dropped, and the letters that are left are put in lower case.
Letters whose stroke or ligature belongs to the letter itself are spelled out. Only marks change
places when a decomposition is put in order, so no order has to be established before they go.
-/

namespace EntityStore.Text

/-- The plain spelling of the letters that carry a stroke or a ligature without decomposing. -/
def spelledOut : List (Char × String) :=
  [('æ', "ae"), ('œ', "oe"), ('ß', "ss"), ('ø', "o"), ('đ', "d"), ('ð', "d"), ('ħ', "h"),
    ('ı', "i"), ('ł', "l"), ('ŀ', "l"), ('ŧ', "t")]

/-- A letter in its plain spelling. -/
def spellOut (c : Char) : List Char :=
  match spelledOut.lookup c with
  | some plain => plain.toList
  | none => [c]

/-- What a single character folds to. -/
def foldChar (c : Char) : List Char :=
  (((decompose c).filter (fun c => !isMark c)).flatMap lower).flatMap spellOut

/-- The folded characters of a text. -/
def foldChars (chars : List Char) : List Char :=
  chars.flatMap foldChar

/-- The first characters stand somewhere in the second ones, next to each other. -/
def isWithin (needle : List Char) : List Char → Bool
  | [] => needle.isEmpty
  | c :: rest => needle.isPrefixOf (c :: rest) || isWithin needle rest

/-- One text contains another when case and diacritics are ignored. -/
def containsFolded (hay needle : String) : Bool :=
  isWithin (foldChars needle.toList) (foldChars hay.toList)

end EntityStore.Text
