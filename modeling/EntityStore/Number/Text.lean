import EntityStore.Number.Shortest

/-! The written forms of binary numbers.
Both forms write the shortest digits. The display form is positional for every size. The data form
always shows that the number is no integer, and writes large and small numbers with an exponent.
-/

namespace EntityStore.Number

/-- The decimal digits of a whole number. -/
def digitText (n : Nat) : String :=
  String.ofList (Nat.toDigits 10 n)

/-- The text of a whole number with its sign. -/
def integerText (i : Int) : String :=
  (if i < 0 then "-" else "") ++ digitText i.natAbs

/-- A text of zeros. -/
def zeros (count : Nat) : String :=
  String.ofList (List.replicate count '0')

namespace Decimal

/-- The exponent of the first digit in scientific notation. -/
def scientificExponent (d : Decimal) : Int :=
  d.exponent + (Nat.toDigits 10 d.digits).length - 1

/-- Positional notation, with a fraction only where the decimal has one. -/
def positional (d : Decimal) : String :=
  let digits := Nat.toDigits 10 d.digits
  if 0 ≤ d.exponent then String.ofList digits ++ zeros d.exponent.toNat
  else
    let point := (digits.length : Int) + d.exponent
    if 0 < point then
      String.ofList (digits.take point.toNat) ++ "." ++ String.ofList (digits.drop point.toNat)
    else "0." ++ zeros (-point).toNat ++ String.ofList digits

/-- One digit before the point, and the exponent with its sign. -/
def scientific (d : Decimal) : String :=
  let digits := Nat.toDigits 10 d.digits
  let exponent := d.scientificExponent
  let fraction := digits.drop 1
  String.ofList (digits.take 1)
    ++ (if fraction.isEmpty then "" else "." ++ String.ofList fraction)
    ++ (if exponent < 0 then "e-" else "e+") ++ digitText exponent.natAbs

end Decimal

/-- The display text of a number: positional at every size, ties of the last digit go up. -/
def displayText (format : Format) : Datum → String
  | .nan => "NaN"
  | .infinite negative => if negative then "-inf" else "inf"
  | .finite negative significand exponent =>
      (if negative then "-" else "")
        ++ (shortestDecimal format .up significand exponent).positional

/-- The exponents of the first digit that the data form writes positionally. -/
structure PositionalRange where
  least : Int
  greatest : Int
  deriving DecidableEq, Repr

namespace PositionalRange

/-- 32 bit numbers are positional from `1e-6` to below `1e13`. -/
def single : PositionalRange := ⟨-6, 12⟩

/-- 64 bit numbers are positional from `1e-5` to below `1e16`. -/
def double : PositionalRange := ⟨-5, 15⟩

end PositionalRange

/-- The data text of a finite number; ties of the last digit go to the even one. What is no finite
number has no data text. -/
def dataText? (format : Format) (range : PositionalRange) : Datum → Option String
  | .nan => none
  | .infinite _ => none
  | .finite negative significand exponent =>
      let decimal := shortestDecimal format .even significand exponent
      let text :=
        if significand = 0 then "0.0"
        else
          let e := decimal.scientificExponent
          if range.least ≤ e ∧ e ≤ range.greatest then
            decimal.positional ++ (if 0 ≤ decimal.exponent then ".0" else "")
          else decimal.scientific
      some ((if negative then "-" else "") ++ text)

/-- The display text of a 32 bit number. -/
def Single.displayText (x : Single) : String :=
  Number.displayText .single x.datum

/-- The display text of a 64 bit number. -/
def Double.displayText (x : Double) : String :=
  Number.displayText .double x.datum

/-- The data text of a 32 bit number, if it is finite. -/
def Single.dataText? (x : Single) : Option String :=
  Number.dataText? .single .single x.datum

/-- The data text of a 64 bit number, if it is finite. -/
def Double.dataText? (x : Double) : Option String :=
  Number.dataText? .double .double x.datum

end EntityStore.Number
