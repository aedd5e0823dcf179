import EntityStore.Number.Text

/-! Points in time with nanoseconds.
A timestamp counts seconds from the start of 1970, always downwards, and nanoseconds from there. A
leap second is the last second of its minute with a second's worth of nanoseconds more; other
seconds may have as many nanoseconds too.
-/

namespace EntityStore

/-- A day of the calendar that has no gaps and goes on in both directions. -/
structure CivilDate where
  year : Int
  month : Nat
  day : Nat
  deriving DecidableEq, Repr

namespace CivilDate

/-- The day that lies a number of days after the start of 1970. Days are counted in eras of four
hundred years that start in March, so the day that leap years add is the last one of a year. -/
def ofDays (days : Int) : CivilDate :=
  let shifted := days + 719468
  let era := shifted / 146097
  let dayOfEra := (shifted % 146097).toNat
  let yearOfEra := (dayOfEra - dayOfEra / 1460 + dayOfEra / 36524 - dayOfEra / 146096) / 365
  let dayOfYear := dayOfEra - (365 * yearOfEra + yearOfEra / 4 - yearOfEra / 100)
  let shiftedMonth := (5 * dayOfYear + 2) / 153
  let month := if shiftedMonth < 10 then shiftedMonth + 3 else shiftedMonth - 9
  { year := yearOfEra + era * 400 + (if month ≤ 2 then 1 else 0)
    month
    day := dayOfYear - (153 * shiftedMonth + 2) / 5 + 1 }

/-- The number of days from the start of 1970 to a day. -/
def toDays (date : CivilDate) : Int :=
  let year := if date.month ≤ 2 then date.year - 1 else date.year
  let era := year / 400
  let yearOfEra := (year % 400).toNat
  let shiftedMonth := if 2 < date.month then date.month - 3 else date.month + 9
  let dayOfYear := (153 * shiftedMonth + 2) / 5 + date.day - 1
  let dayOfEra := yearOfEra * 365 + yearOfEra / 4 - yearOfEra / 100 + dayOfYear
  era * 146097 + dayOfEra - 719468

/-- The year has a day more. -/
def isLeapYear (year : Int) : Bool :=
  year % 4 = 0 && (year % 100 ≠ 0 || year % 400 = 0)

/-- The number of days of a month. -/
def monthLength (year : Int) (month : Nat) : Nat :=
  if month = 2 then (if isLeapYear year then 29 else 28)
  else if month = 4 ∨ month = 6 ∨ month = 9 ∨ month = 11 then 30
  else 31

/-- The least year of a timestamp. -/
def leastYear : Int := -262143

/-- The greatest year of a timestamp. -/
def greatestYear : Int := 262142

/-- The date exists and a timestamp can name it. -/
def isValid (date : CivilDate) : Bool :=
  leastYear ≤ date.year && date.year ≤ greatestYear && 1 ≤ date.month && date.month ≤ 12
    && 1 ≤ date.day && date.day ≤ monthLength date.year date.month

end CivilDate

/-- A point in time: seconds since the start of 1970, and nanoseconds after them. -/
structure Timestamp where
  seconds : Int
  nanos : Nat
  inRange : -8334601228800 ≤ seconds ∧ seconds ≤ 8210266876799
  subsecond : nanos < 2000000000
  deriving DecidableEq, Repr

namespace Timestamp

/-- The range of the seconds is the range of the calendar's years. -/
example : (CivilDate.mk CivilDate.leastYear 1 1).toDays * 86400 = -8334601228800
    ∧ ((CivilDate.mk CivilDate.greatestYear 12 31).toDays + 1) * 86400 - 1 = 8210266876799 := by
  decide

/-- The point in time of a count of seconds and nanoseconds, if it is in range. Only the last second
of a minute may be a leap second. -/
def ofUnix? (seconds : Int) (nanos : Nat) : Option Timestamp :=
  if inRange : -8334601228800 ≤ seconds ∧ seconds ≤ 8210266876799 then
    if subsecond : nanos < 1000000000 ∨ nanos < 2000000000 ∧ seconds % 60 = 59 then
      some { seconds, nanos, inRange, subsecond := by omega }
    else none
  else none

/-- The earlier point in time comes first. -/
def order (a b : Timestamp) : Ordering :=
  (compare a.seconds b.seconds).then (compare a.nanos b.nanos)

/-- A number with leading zeros up to a width. -/
def padded (width n : Nat) : String :=
  let digits := Number.digitText n
  Number.zeros (width - digits.length) ++ digits

/-- A year of four digits, or with its sign where four digits do not hold it. -/
def yearText (year : Int) : String :=
  if 0 ≤ year ∧ year ≤ 9999 then padded 4 year.toNat
  else (if year < 0 then "-" else "+") ++ padded 4 year.natAbs

/-- A fraction of a second in groups of three digits, as few as hold it. -/
def fractionText (nanos : Nat) : String :=
  if nanos = 0 then ""
  else if nanos % 1000000 = 0 then "." ++ padded 3 (nanos / 1000000)
  else if nanos % 1000 = 0 then "." ++ padded 6 (nanos / 1000)
  else "." ++ padded 9 nanos

/-- The date and the time of day without the offset. A second's worth of nanoseconds is written as a
second more, whether this makes a leap second or not. -/
def localText (t : Timestamp) : String :=
  let date := CivilDate.ofDays (t.seconds / 86400)
  let second := (t.seconds % 86400).toNat
  let leap := 1000000000 ≤ t.nanos
  yearText date.year ++ "-" ++ padded 2 date.month ++ "-" ++ padded 2 date.day
    ++ "T" ++ padded 2 (second / 3600) ++ ":" ++ padded 2 (second / 60 % 60)
    ++ ":" ++ padded 2 (second % 60 + if leap then 1 else 0)
    ++ fractionText (if leap then t.nanos - 1000000000 else t.nanos)

/-- The display text, with a numeric offset. -/
def displayText (t : Timestamp) : String :=
  t.localText ++ "+00:00"

/-- The data text, with the letter for the zero offset. -/
def dataText (t : Timestamp) : String :=
  t.localText ++ "Z"

end Timestamp

end EntityStore
