import EntityStore.Number.Binary

/-! Words of floating point numbers in hexadecimal digits.
The digits keep every bit, also those of values that are no numbers. All of these have one written
form in common, which is read as the quiet one.
-/

namespace EntityStore.Number

/-- The value of a hexadecimal digit. -/
def hexValue? (c : Char) : Option Nat :=
  if '0' ≤ c && c ≤ '9' then some (c.toNat - '0'.toNat)
  else if 'a' ≤ c && c ≤ 'f' then some (c.toNat - 'a'.toNat + 10)
  else if 'A' ≤ c && c ≤ 'F' then some (c.toNat - 'A'.toNat + 10)
  else none

/-- The word of some bits that digits stand for. -/
def wordOf? (bits : Nat) (digits : List Char) : Option Nat := do
  let word ← digits.foldlM (fun n c => do return 16 * n + (← hexValue? c)) 0
  if digits ≠ [] ∧ word < 1 <<< bits then some word else none

/-- The digits of a word, with leading zeros up to a width. -/
def wordText (width word : Nat) : String :=
  let digits := Nat.toDigits 16 word
  String.ofList (List.replicate (width - digits.length) '0' ++ digits)

/-- The form of every value that is no number. -/
def nanText : String := "nan"

/-- The number of eight digits. -/
def Single.ofWordText? (text : String) : Option Single :=
  if text = nanText then some ⟨0x7fc00000⟩ else (wordOf? 32 text.toList).map Single.ofWord

/-- The digits of a number. -/
def Single.wordText (x : Single) : String :=
  if x.datum = .nan then nanText else Number.wordText 8 x.bits.toNat

/-- The number of sixteen digits. -/
def Double.ofWordText? (text : String) : Option Double :=
  if text = nanText then some ⟨0x7ff8000000000000⟩ else (wordOf? 64 text.toList).map Double.ofWord

/-- The digits of a number. -/
def Double.wordText (x : Double) : String :=
  if x.datum = .nan then nanText else Number.wordText 16 x.bits.toNat

end EntityStore.Number
