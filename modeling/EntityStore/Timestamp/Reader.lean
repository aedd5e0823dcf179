import EntityStore.Text.Range
import EntityStore.Timestamp.Basic

/-! Reading points in time.
A date and a time of day stand around a letter or a space, and an offset follows them. Blanks may
stand between the parts. A year may carry a sign and then has any number of digits; a sixtieth
second is a leap second; a fraction beyond nanoseconds is cut off.
-/

namespace EntityStore.Timestamp

open Text

/-- A decimal digit. -/
def isDigit (c : Char) : Bool :=
  '0' ≤ c ∧ c ≤ '9'

/-- The number that decimal digits stand for. -/
def numberOf (digits : List Char) : Nat :=
  digits.foldl (fun n c => 10 * n + (c.toNat - 48)) 0

/-- A number of at least one and at most `width` digits at the front, and what follows it. -/
def scanNumber (width : Nat) (input : List Char) : Option (Nat × List Char) :=
  match (input.take width).takeWhile isDigit with
  | [] => none
  | digits => some (numberOf digits, input.drop digits.length)

/-- A number after blanks that lies in a range. -/
def scanField (least greatest : Nat) (input : List Char) : Option (Nat × List Char) := do
  let (n, rest) ← scanNumber 2 (trimLeft input)
  if least ≤ n ∧ n ≤ greatest then some (n, rest) else none

/-- A character after blanks. -/
def scanMark (mark : Char) (input : List Char) : Option (List Char) :=
  match trimLeft input with
  | c :: rest => if c = mark then some rest else none
  | [] => none

/-- A year: four digits, or a sign and any number of digits. -/
def scanYear (input : List Char) : Option (Int × List Char) :=
  match trimLeft input with
  | '-' :: rest => (scanNumber rest.length rest).map (fun (n, rest) => (-(n : Int), rest))
  | '+' :: rest => (scanNumber rest.length rest).map (fun (n, rest) => ((n : Int), rest))
  | rest => (scanNumber 4 rest).map (fun (n, rest) => ((n : Int), rest))

/-- The nanoseconds of a fraction, if a point starts one. -/
def scanFraction : List Char → Option (Nat × List Char)
  | '.' :: input =>
      match input.takeWhile isDigit with
      | [] => none
      | digits =>
          let kept := digits.take 9
          some (numberOf kept * Nat.pow 10 (9 - kept.length), input.drop digits.length)
  | input => some (0, input)

/-- The characters that may stand between the hours and the minutes of an offset. -/
def isOffsetSeparator (c : Char) : Bool :=
  c = ':' || isBlank c

/-- An offset in seconds: the letter for zero, or a sign with hours and minutes. -/
def scanOffset (input : List Char) : Option (Int × List Char) := do
  match input with
  | [] => none
  | sign :: rest =>
      if sign = 'Z' ∨ sign = 'z' then some (0, rest)
      else
        let negative ←
          if sign = '+' then some false
          else if sign = '-' ∨ sign = '−' then some true
          else none
        let (hours, rest) ← scanPair rest
        let (minutes, rest) ← scanPair (rest.dropWhile isOffsetSeparator)
        if minutes < 60 then
          let seconds : Int := hours * 3600 + minutes * 60
          some (if negative then -seconds else seconds, rest)
        else none
where
  /-- Exactly two digits. -/
  scanPair : List Char → Option (Nat × List Char)
    | a :: b :: rest => if isDigit a ∧ isDigit b then some (numberOf [a, b], rest) else none
    | _ => none

/-- An offset, which may also be written as the name of the time scale. -/
def scanZone (input : List Char) : Option (Int × List Char) :=
  match input with
  | a :: b :: c :: rest =>
      if (a = 'U' ∨ a = 'u') ∧ (b = 'T' ∨ b = 't') ∧ (c = 'C' ∨ c = 'c') then some (0, rest)
      else scanOffset input
  | _ => scanOffset input

/-- The point in time that a text names. -/
def read? (text : String) : Option Timestamp := do
  let (year, rest) ← scanYear text.toList
  let rest ← scanMark '-' rest
  let (month, rest) ← scanField 1 12 rest
  let rest ← scanMark '-' rest
  let (day, rest) ← scanField 1 31 rest
  let rest ←
    match rest with
    | c :: rest => if c = 't' ∨ c = 'T' ∨ c = ' ' then some rest else none
    | [] => none
  let (hour, rest) ← scanField 0 23 rest
  let rest ← scanMark ':' rest
  let (minute, rest) ← scanField 0 59 rest
  let rest ← scanMark ':' rest
  let (second, rest) ← scanField 0 60 rest
  let (nanos, rest) ← scanFraction rest
  let (offset, rest) ← scanZone (trimLeft rest)
  let date : CivilDate := { year, month, day }
  if !(trimLeft rest).isEmpty ∨ !date.isValid ∨ 86400 ≤ offset.natAbs then none
  else
    let leap := second = 60
    let second := if leap then 59 else second
    ofUnix?
      (date.toDays * 86400 + hour * 3600 + minute * 60 + second - offset)
      (if leap then 1000000000 + nanos else nanos)

end EntityStore.Timestamp
