import EntityStore.Number.Binary

/-! The shortest decimal text of a binary number.
Every number of a format owns the interval of reals that round to it. Among the decimals in that
interval the one with the fewest digits is chosen, and of several the one nearest to the number.
On the grid of multiples of a power of ten it is enough to test the two neighbours of the number:
when some point of the grid lies in the interval, so does a neighbour.
-/

namespace EntityStore.Number

/-- A decimal `digits * 10 ^ exponent`. -/
structure Decimal where
  digits : Nat
  exponent : Int
  deriving DecidableEq, Repr

/-- Which of two equally near decimals is chosen. -/
inductive Tie where
  | up
  | even
  deriving DecidableEq, Repr

namespace Decimal

/-- Moves the trailing zeros of the digits into the exponent. -/
def trimmed (digits : Nat) (exponent : Int) : Decimal :=
  if h : digits ≠ 0 ∧ digits % 10 = 0 then
    trimmed (digits / 10) (exponent + 1)
  else ⟨digits, exponent⟩
termination_by digits
decreasing_by omega

end Decimal

/-- The interval of reals that round to a positive number: with `scale` as the unit, the number is
`center`, the ends are `low` and `high`, and the ends belong to the interval when `closed`. -/
structure Interval where
  low : Nat
  center : Nat
  high : Nat
  scale : Nat
  closed : Bool
  deriving DecidableEq, Repr

namespace Interval

/-- The interval of `significand * 2 ^ exponent`. The gap below a power of two is half as wide as
the gap above it, except at the least exponent of the format. -/
def ofFinite (format : Format) (significand : Nat) (exponent : Int) : Interval :=
  let narrow := significand = format.fractions ∧ format.leastExponent < exponent
  let up := 1 <<< (exponent - 2).toNat
  { low := (4 * significand - if narrow then 1 else 2) * up
    center := 4 * significand * up
    high := (4 * significand + 2) * up
    scale := 1 <<< (2 - exponent).toNat
    closed := significand % 2 = 0 }

/-- The same interval measured in multiples of a power of ten. -/
def onGrid (interval : Interval) (exponent : Int) : Interval :=
  let up := Nat.pow 10 (-exponent).toNat
  { interval with
    low := interval.low * up
    center := interval.center * up
    high := interval.high * up
    scale := interval.scale * Nat.pow 10 exponent.toNat }

/-- A whole number of units lies in the interval. -/
def holds (interval : Interval) (point : Nat) : Bool :=
  let position := point * interval.scale
  if interval.closed then interval.low ≤ position ∧ position ≤ interval.high
  else interval.low < position ∧ position < interval.high

/-- The whole number in the interval that is nearest to the center, looked for on both sides of
it. -/
def nearest? (tie : Tie) (interval : Interval) : Option Nat :=
  let below := interval.center / interval.scale
  let above := below + 1
  match interval.holds below, interval.holds above with
  | false, false => none
  | true, false => some below
  | false, true => some above
  | true, true =>
      let rest := interval.center % interval.scale
      if 2 * rest < interval.scale then some below
      else if interval.scale < 2 * rest then some above
      else match tie with
        | .up => some above
        | .even => some (if below % 2 = 0 then below else above)

/-- The exponent of the first decimal digit of the center. -/
def leadingExponent (interval : Interval) : Int :=
  let guess : Int :=
    ((Nat.toDigits 10 interval.center).length : Int) - (Nat.toDigits 10 interval.scale).length
  let up := Nat.pow 10 (-guess).toNat
  if interval.center * up < interval.scale * Nat.pow 10 guess.toNat then guess - 1 else guess

/-- The first hit on finer and finer grids; seventeen digits tell all numbers apart. -/
def shortest (tie : Tie) (interval : Interval) : Nat → Int → Decimal
  | 0, exponent => ⟨(interval.onGrid exponent).center / (interval.onGrid exponent).scale, exponent⟩
  | grids + 1, exponent =>
      match (interval.onGrid exponent).nearest? tie with
      | some digits => .trimmed digits exponent
      | none => shortest tie interval grids (exponent - 1)

end Interval

/-- The shortest decimal that rounds to `significand * 2 ^ exponent`, and the nearest to it of
those. -/
def shortestDecimal (format : Format) (tie : Tie) (significand : Nat) (exponent : Int)
    : Decimal :=
  if significand = 0 then ⟨0, 0⟩
  else
    let interval := Interval.ofFinite format significand exponent
    interval.shortest tie 17 interval.leadingExponent

end EntityStore.Number
