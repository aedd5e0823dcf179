import EntityStore.Json.Reader
import EntityStore.Number.Text

/-! What number literals stand for.
A literal with neither fraction nor exponent is a whole number where 64 bits hold it. Every other
literal is a 64 bit floating point number: its leading digits as far as 64 bits hold them, rounded,
and then multiplied or divided by a rounded power of ten. That takes up to two roundings, so the
result may be a neighbour of the nearest number.
-/

namespace EntityStore.Json

open Number

/-- What a number literal stands for. Negative whole numbers are given by their magnitude. -/
inductive Numeral where
  | natural (n : Nat)
  | negative (magnitude : Nat)
  | real (x : Double)
  deriving DecidableEq, Repr

namespace Numeral

/-- The value of a decimal digit. -/
def digitValue (c : Char) : Nat :=
  c.toNat - 48

/-- The largest significand that is kept. -/
def limit : Nat := 0xffffffffffffffff

/-- Appends digits to a significand while it stays within the limit. The result holds how many
digits were taken and what remains of them. -/
def absorb (significand : Nat) : List Char → Nat × Nat × List Char
  | [] => (significand, 0, [])
  | c :: rest =>
      let next := 10 * significand + digitValue c
      if next ≤ limit then
        let (significand, taken, rest) := absorb next rest
        (significand, taken + 1, rest)
      else (significand, 0, c :: rest)

/-- A power of ten, rounded. -/
def powerOfTen (n : Nat) : Double :=
  .ofRatio false (Nat.pow 10 n) 1

/-- The magnitude of a finite number as a quotient. -/
def ratio (x : Double) : Nat × Nat :=
  match x.datum with
  | .finite _ significand exponent =>
      (significand <<< exponent.toNat, 1 <<< (-exponent).toNat)
  | _ => (0, 1)

/-- The rounded product of two finite numbers without signs. -/
def times (x y : Double) : Double :=
  .ofRatio false ((ratio x).1 * (ratio y).1) ((ratio x).2 * (ratio y).2)

/-- The rounded quotient of two finite numbers without signs. -/
def quotient (x y : Double) : Double :=
  .ofRatio false ((ratio x).1 * (ratio y).2) ((ratio x).2 * (ratio y).1)

/-- The largest exponent of ten that a single step divides by. -/
def step : Nat := 308

/-- Divides by a power of ten, in steps where it is too large for one. -/
def scaleDown (x : Double) (exponent : Nat) : Double :=
  if exponent ≤ step then quotient x (powerOfTen exponent)
  else if x = .zero then x
  else scaleDown (quotient x (powerOfTen step)) (exponent - step)
termination_by exponent
decreasing_by simp only [step] at *; omega

/-- The number `significand * 10 ^ exponent`, none beyond the largest one. -/
def scale? (significand : Nat) (exponent : Int) : Option Double :=
  let x : Double := .ofInt significand
  if exponent < 0 then some (scaleDown x exponent.natAbs)
  else if exponent.toNat ≤ step then
    let x := times x (powerOfTen exponent.toNat)
    if x.isInfinite then none else some x
  else if x = .zero then some x
  else none

/-- The exponent that follows the letter of a literal, none where 32 bits do not hold it. -/
def exponentValue? (digits : List Char) : Option Nat :=
  digits.foldl
    (fun n c => do
      let n := 10 * (← n) + digitValue c
      if n ≤ 0x7fffffff then some n else none)
    (some 0)

/-- The number of a significand, an exponent of ten and the exponent of the literal. -/
def realOf? (significand : Nat) (exponent : Int) : List Char → Option Double
  | [] => scale? significand exponent
  | _ :: written =>
      let (down, digits) :=
        match written with
        | '-' :: digits => (true, digits)
        | '+' :: digits => (false, digits)
        | digits => (false, digits)
      match exponentValue? digits with
      | some n => scale? significand (if down then exponent - n else exponent + n)
      | none => if significand ≠ 0 ∧ !down then none else some .zero

/-- What a number literal stands for, none beyond the largest floating point number. The one
negative whole number that is a floating point number is zero, which keeps its sign, together with
all that 64 bits do not hold. -/
def ofLiteral? (literal : String) : Option Numeral := do
  let (isNegative, rest) :=
    match literal.toList with
    | '-' :: rest => (true, rest)
    | rest => (false, rest)
  let (whole, rest) := digits rest
  let (fraction, exponent) :=
    match rest with
    | '.' :: rest => digits rest
    | rest => ([], rest)
  let signed (x : Double) : Numeral := .real (if isNegative then x.neg else x)
  let (significand, _, beyond) := absorb 0 whole
  if beyond.isEmpty ∧ fraction.isEmpty ∧ exponent.isEmpty then
    if !isNegative then return .natural significand
    else if 0 < significand ∧ significand ≤ 0x8000000000000000 then return .negative significand
    else return signed (.ofInt significand)
  else
    let (significand, taken, _) := absorb significand fraction
    return signed (← realOf? significand (beyond.length - taken) exponent)

/-- The whole number that the numeral is. -/
def toInt? : Numeral → Option Int
  | .natural n => some n
  | .negative n => some (-n)
  | .real _ => none

/-- The numeral as a 64 bit floating point number. -/
def toDouble : Numeral → Double
  | .natural n => .ofInt n
  | .negative n => .ofInt (-n)
  | .real x => x

/-- The numeral as a 32 bit floating point number, rounded once from what it stands for. -/
def toSingle : Numeral → Single
  | .natural n => .ofInt n
  | .negative n => .ofInt (-n)
  | .real x => .ofDouble x

end Numeral

/-- The numeral of a number. -/
def numeral? : Json → Option Numeral
  | .number literal => Numeral.ofLiteral? literal
  | _ => none

/-- A whole number of 64 bits without a sign. -/
def toUInt64? (json : Json) : Option UInt64 := do
  let i ← (← json.numeral?).toInt?
  if 0 ≤ i ∧ i ≤ 0xffffffffffffffff then some (.ofNat i.toNat) else none

/-- A whole number of 64 bits with a sign. -/
def toInt64? (json : Json) : Option Int64 := do
  let i ← (← json.numeral?).toInt?
  if -0x8000000000000000 ≤ i ∧ i ≤ 0x7fffffffffffffff then some (.ofInt i) else none

/-- The literal of a whole number. -/
def ofInt (i : Int) : Json :=
  .number (integerText i)

/-- The literal of a 32 bit number; what is not finite is written as nothing. -/
def ofSingle (x : Single) : Json :=
  match x.dataText? with
  | some literal => .number literal
  | none => .null

/-- The literal of a 64 bit number; what is not finite is written as nothing. -/
def ofDouble (x : Double) : Json :=
  match x.dataText? with
  | some literal => .number literal
  | none => .null

end EntityStore.Json
