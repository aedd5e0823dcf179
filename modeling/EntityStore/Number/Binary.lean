/-! Binary floating point numbers as bit patterns.
A number is its word, so two numbers are equal when their bits are. What a word stands for is a
`Datum`, and every comparison and conversion is computed from it in whole numbers: a conversion
rounds an exact quotient to the nearest number of the target format, a half to the even one.
-/

namespace EntityStore.Number

/-- A binary interchange format: the widths of the stored fraction and of the exponent. -/
structure Format where
  fractionBits : Nat
  exponentBits : Nat
  deriving DecidableEq, Repr

namespace Format

/-- The 32 bit format. -/
def single : Format := ⟨23, 8⟩

/-- The 64 bit format. -/
def double : Format := ⟨52, 11⟩

/-- The number of significands that share one exponent. -/
def fractions (format : Format) : Nat :=
  1 <<< format.fractionBits

/-- The exponent field of infinities and of values that are no numbers. -/
def allOnes (format : Format) : Nat :=
  1 <<< format.exponentBits - 1

/-- The power of two that a unit of the smallest significand stands for. -/
def leastExponent (format : Format) : Int :=
  2 - (1 <<< (format.exponentBits - 1) : Nat) - format.fractionBits

/-- The sign bit as a word. -/
def signBit (format : Format) : Nat :=
  1 <<< (format.fractionBits + format.exponentBits)

end Format

/-- The meaning of a word: no number, an infinity, or a signed `significand * 2 ^ exponent`. -/
inductive Datum where
  | nan
  | infinite (negative : Bool)
  | finite (negative : Bool) (significand : Nat) (exponent : Int)
  deriving DecidableEq, Repr

namespace Datum

/-- The meaning of a word in a format. -/
def ofWord (format : Format) (word : Nat) : Datum :=
  let fraction := word % format.fractions
  let field := word / format.fractions % (format.allOnes + 1)
  let negative := word / format.signBit % 2 = 1
  if field = format.allOnes then
    if fraction = 0 then .infinite negative else .nan
  else if field = 0 then
    .finite negative fraction format.leastExponent
  else
    .finite negative (format.fractions + fraction) (format.leastExponent + (field - 1))

/-- The exponent of the finest unit that a finite number of either format is a multiple of. -/
def unitExponent : Int := -1074

/-- A finite number as a whole multiple of the finest unit. -/
def units (negative : Bool) (significand : Nat) (exponent : Int) : Int :=
  let magnitude : Int := (significand <<< (exponent - unitExponent).toNat : Nat)
  if negative then -magnitude else magnitude

/-- The order of numbers by value: none where one side is no number, and zero has no sign. -/
def compare? : Datum → Datum → Option Ordering
  | .nan, _ => none
  | _, .nan => none
  | .infinite a, .infinite b => some (compare b a)
  | .infinite negative, .finite .. => some (if negative then .lt else .gt)
  | .finite .., .infinite negative => some (if negative then .gt else .lt)
  | .finite s m e, .finite s' m' e' => some (compare (units s m e) (units s' m' e'))

/-- The values are equal; no value equals one that is no number. -/
def sameValue (a b : Datum) : Bool :=
  a.compare? b = some .eq

end Datum

namespace Format

/-- The whole number nearest to a quotient, where a half goes to the even neighbour. -/
def roundHalfEven (numerator denominator : Nat) : Nat :=
  let quotient := numerator / denominator
  let rest := numerator % denominator
  if 2 * rest < denominator then quotient
  else if denominator < 2 * rest then quotient + 1
  else quotient + quotient % 2

/-- A quotient divided by a power of two, as a quotient again. -/
def scaled (numerator denominator : Nat) (exponent : Int) : Nat × Nat :=
  (numerator <<< (-exponent).toNat, denominator <<< exponent.toNat)

/-- The exponent at which the significand of a positive quotient has its full width, or the least
exponent of the format. -/
def exponentOf (format : Format) (numerator denominator : Nat) : Int :=
  let guess : Int := (numerator.log2 : Int) - denominator.log2 - format.fractionBits
  let (n, d) := scaled numerator denominator guess
  let exponent := if n / d < format.fractions then guess - 1 else guess
  max exponent format.leastExponent

/-- The word of the number nearest to a quotient, and of the infinity beyond the largest one. -/
def round (format : Format) (negative : Bool) (numerator denominator : Nat) : Nat :=
  let sign := if negative then format.signBit else 0
  if numerator = 0 then sign
  else
    let exponent := format.exponentOf numerator denominator
    let (n, d) := scaled numerator denominator exponent
    let rank := (exponent - format.leastExponent).toNat
    let word := rank * format.fractions + roundHalfEven n d
    sign + min word (format.allOnes * format.fractions)

/-- The word of the number nearest to `significand * 2 ^ exponent`. -/
def roundDyadic (format : Format) (negative : Bool) (significand : Nat) (exponent : Int) : Nat :=
  format.round negative (significand <<< exponent.toNat) (1 <<< (-exponent).toNat)

end Format

/-- A 32 bit floating point number, equal to another when the bits are. -/
structure Single where
  bits : UInt32
  deriving DecidableEq, Repr

/-- A 64 bit floating point number, equal to another when the bits are. -/
structure Double where
  bits : UInt64
  deriving DecidableEq, Repr

namespace Single

/-- What the number stands for. -/
def datum (x : Single) : Datum :=
  .ofWord .single x.bits.toNat

/-- The number of a word. -/
def ofWord (word : Nat) : Single :=
  ⟨.ofNat word⟩

/-- Positive zero. -/
def zero : Single := ⟨0⟩

/-- The nearest number to a whole number. -/
def ofInt (i : Int) : Single :=
  .ofWord (Format.single.round (i < 0) i.natAbs 1)

end Single

namespace Double

/-- What the number stands for. -/
def datum (x : Double) : Datum :=
  .ofWord .double x.bits.toNat

/-- The number of a word. -/
def ofWord (word : Nat) : Double :=
  ⟨.ofNat word⟩

/-- Positive zero. -/
def zero : Double := ⟨0⟩

/-- The nearest number to a whole number. -/
def ofInt (i : Int) : Double :=
  .ofWord (Format.double.round (i < 0) i.natAbs 1)

/-- The nearest number to a quotient. -/
def ofRatio (negative : Bool) (numerator denominator : Nat) : Double :=
  .ofWord (Format.double.round negative numerator denominator)

/-- The number with the opposite sign. -/
def neg (x : Double) : Double :=
  ⟨x.bits ^^^ 0x8000000000000000⟩

/-- The number stands for an infinity. -/
def isInfinite (x : Double) : Bool :=
  match x.datum with
  | .infinite _ => true
  | _ => false

/-- A 32 bit number in 64 bits. The value stays; a word that is no number keeps its sign and its
payload and becomes quiet. -/
def ofSingle (x : Single) : Double :=
  match x.datum with
  | .nan =>
      let sign : UInt64 := (x.bits &&& 0x80000000).toUInt64 <<< 32
      let payload : UInt64 := (x.bits &&& 0x7fffff).toUInt64 <<< 29
      ⟨sign ||| 0x7ff8000000000000 ||| payload⟩
  | .infinite negative =>
      .ofWord ((if negative then Format.double.signBit else 0)
        + Format.double.allOnes * Format.double.fractions)
  | .finite negative significand exponent =>
      .ofWord (Format.double.roundDyadic negative significand exponent)

end Double

/-- The nearest 32 bit number. A word that is no number keeps its sign and the upper part of its
payload and becomes quiet. -/
def Single.ofDouble (x : Double) : Single :=
  match x.datum with
  | .nan =>
      let sign : UInt32 := (x.bits >>> 32).toUInt32 &&& 0x80000000
      let payload : UInt32 := (x.bits >>> 29).toUInt32 &&& 0x3fffff
      ⟨sign ||| 0x7fc00000 ||| payload⟩
  | .infinite negative =>
      .ofWord ((if negative then Format.single.signBit else 0)
        + Format.single.allOnes * Format.single.fractions)
  | .finite negative significand exponent =>
      .ofWord (Format.single.roundDyadic negative significand exponent)

end EntityStore.Number
