/-! How similar two words are.
The measure counts the letters that two words share at about the same place, takes off the shared
letters that are out of order, and adds to words that start alike. It is a fraction, which is kept
exact.
-/

namespace EntityStore.Text

/-- A fraction of two numbers. -/
structure Ratio where
  numerator : Nat
  denominator : Nat
  deriving DecidableEq, Repr

namespace Ratio

/-- The fraction is greater than another one. -/
def exceeds (left right : Ratio) : Bool :=
  left.numerator * right.denominator > right.numerator * left.denominator

end Ratio

/-- Takes the first letter at a place from the lower to before the upper one that is the given
letter and not taken yet. -/
def takeMatch (letter : Char) (lower upper place : Nat)
    : List (Char × Bool) → Option (List (Char × Bool))
  | [] => none
  | (found, taken) :: rest =>
      if place < upper ∧ lower ≤ place ∧ found = letter ∧ !taken then some ((found, true) :: rest)
      else ((found, taken) :: ·) <$> takeMatch letter lower upper (place + 1) rest

/-- The letters of the first word that have a match in the second one, which lies at most so many
places away, and the letters of the second word with whether they are matched. -/
def matchLetters (reach place : Nat) (second : List (Char × Bool))
    : List Char → List Char × List (Char × Bool)
  | [] => ([], second)
  | letter :: rest =>
      match takeMatch letter (place - reach) (place + reach + 1) 0 second with
      | some second =>
          let (found, second) := matchLetters reach (place + 1) second rest
          (letter :: found, second)
      | none => matchLetters reach (place + 1) second rest

/-- The number of places where two lists of letters differ. -/
def differences (first second : List Char) : Nat :=
  ((first.zip second).filter fun (a, b) => a ≠ b).length

/-- The similarity of two words by the letters that they share. -/
def sharedLetters (first second : List Char) : Ratio :=
  if first.isEmpty ∧ second.isEmpty then ⟨1, 1⟩
  else if first.isEmpty ∨ second.isEmpty then ⟨0, 1⟩
  else
    let reach := max first.length second.length / 2 - 1
    let (found, marked) := matchLetters reach 0 (second.map (·, false)) first
    let others := (marked.filter Prod.snd).map Prod.fst
    let shared := found.length
    let ordered := shared - differences found others / 2
    if shared = 0 then ⟨0, 1⟩
    else
      ⟨shared * shared * second.length + shared * shared * first.length
          + ordered * first.length * second.length,
        3 * first.length * second.length * shared⟩

/-- The number of letters that two words start with in common. -/
def commonStart : List Char → List Char → Nat
  | a :: first, b :: second => if a = b then commonStart first second + 1 else 0
  | _, _ => 0

/-- The similarity of two words, which is greater for words that start alike when they share enough
letters. -/
def similarity (first second : String) : Ratio :=
  let shared := sharedLetters first.toList second.toList
  if Ratio.exceeds ⟨7, 10⟩ shared then shared
  else
    let start := min 4 (commonStart first.toList second.toList)
    ⟨10 * shared.numerator + start * (shared.denominator - shared.numerator),
      10 * shared.denominator⟩

/-- The words are so similar that one may be meant by the other. -/
def mayMean (first second : String) : Bool :=
  (similarity first second).exceeds ⟨8, 10⟩

end EntityStore.Text
