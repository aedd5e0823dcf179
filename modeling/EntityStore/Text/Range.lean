/-! Sets of characters given by ascending ranges of code points, and white space as one of them. -/

namespace EntityStore.Text

/-- The code points from the first to the second, both included. -/
abbrev Range := Nat × Nat

/-- The code point lies in one of the ascending ranges. -/
def within (ranges : List Range) (code : Nat) : Bool :=
  match ranges with
  | [] => false
  | (first, last) :: rest =>
      if code < first then false
      else if code ≤ last then true
      else within rest code

/-- The character lies in one of the ascending ranges. -/
def isIn (ranges : List Range) (c : Char) : Bool :=
  within ranges c.toNat

/-- The white space characters. -/
def blankRanges : List Range :=
  [
    (0x9, 0xd), (0x20, 0x20), (0x85, 0x85), (0xa0, 0xa0), (0x1680, 0x1680), (0x2000, 0x200a),
    (0x2028, 0x2029), (0x202f, 0x202f), (0x205f, 0x205f), (0x3000, 0x3000)
  ]

/-- A white space character. -/
def isBlank (c : Char) : Bool :=
  isIn blankRanges c

/-- The characters without the white space in front. -/
def trimLeft (chars : List Char) : List Char :=
  chars.dropWhile isBlank

/-- The text without the white space at both ends. -/
def trim (text : String) : String :=
  String.ofList (trimLeft (trimLeft text.toList).reverse).reverse

end EntityStore.Text
