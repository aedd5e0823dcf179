import EntityStore.Timestamp.Basic

/-! The calendar counts every day once.
A day is found by its era, the year of the era that starts in March, the day of that year and the month
that starts in March. Each of them is found by a quotient, so each is compared with the days at which it
starts.
-/

namespace EntityStore.CivilDate

-----------------------------------------------------------------------------------------
-- Years of an era
-----------------------------------------------------------------------------------------

/-- The day of an era at which a year starts. -/
def yearStart (year : Nat) : Nat :=
  365 * year + year / 4 - year / 100

/-- The days of an era up to a day without those that leap years add. -/
def plainDays (dayOfEra : Nat) : Nat :=
  dayOfEra - dayOfEra / 1460 + dayOfEra / 36524 - dayOfEra / 146096

/-- The year of an era that a day lies in. -/
def yearOfDay (dayOfEra : Nat) : Nat :=
  plainDays dayOfEra / 365

/-- A later day has no fewer days before it. -/
theorem plainDays_mono {a b : Nat} (order : a ≤ b) : plainDays a ≤ plainDays b := by
  unfold plainDays
  have years : a - a / 1460 ≤ b - b / 1460 := by omega
  have centuries : a / 36524 ≤ b / 36524 := by omega
  have eras : a / 146096 = a / 36524 / 4 ∧ b / 146096 = b / 36524 / 4 := by omega
  omega

/-- A year starts with as many days before it as it tells. -/
theorem plainDays_yearStart
    : ∀ year < 400,
        365 * year ≤ plainDays (yearStart year)
        ∧ (year = 0 ∨ plainDays (yearStart year - 1) < 365 * year) := by
  decide +kernel

theorem yearOfDay_lt {dayOfEra : Nat} (inside : dayOfEra < 146097) : yearOfDay dayOfEra < 400 := by
  unfold yearOfDay plainDays
  omega

/-- A day lies behind the start of its year. -/
theorem yearStart_le {dayOfEra : Nat} (inside : dayOfEra < 146097)
    : yearStart (yearOfDay dayOfEra) ≤ dayOfEra := by
  obtain ⟨_, first | before⟩ := plainDays_yearStart _ (yearOfDay_lt inside)
  · rw [first]
    exact Nat.zero_le _
  · refine Nat.le_of_not_lt (fun late => ?_)
    have earlier := plainDays_mono (a := dayOfEra) (b := yearStart (yearOfDay dayOfEra) - 1) (by omega)
    unfold yearOfDay at before earlier
    omega

/-- A day lies in front of the start of the next year, if the era has one. -/
theorem lt_yearStart_succ {dayOfEra : Nat} (next : yearOfDay dayOfEra + 1 < 400)
    : dayOfEra < yearStart (yearOfDay dayOfEra + 1) := by
  obtain ⟨starts, _⟩ := plainDays_yearStart _ next
  refine Nat.lt_of_not_ge (fun late => ?_)
  have later := plainDays_mono late
  unfold yearOfDay at starts later
  omega

/-- The number of days of a year that starts in March. The day that leap years add is its last one, and
belongs to the next year of the calendar. -/
def yearLength (year : Nat) : Nat :=
  if isLeapYear (year + 1 : Nat) then 366 else 365

theorem yearStart_succ
    : ∀ year < 400, year + 1 < 400 → yearStart (year + 1) = yearStart year + yearLength year := by
  decide +kernel

/-- A day of a year lies within the length of the year. -/
theorem day_lt_yearLength {dayOfEra : Nat} (inside : dayOfEra < 146097)
    : dayOfEra - yearStart (yearOfDay dayOfEra) < yearLength (yearOfDay dayOfEra) := by
  have year := yearOfDay_lt inside
  by_cases next : yearOfDay dayOfEra + 1 < 400
  · have before := lt_yearStart_succ next
    rw [yearStart_succ _ year next] at before
    have after := yearStart_le inside
    omega
  · have last : yearOfDay dayOfEra = 399 := by omega
    have start : yearStart 399 = 145731 ∧ yearLength 399 = 366 := by decide
    rw [last, start.1, start.2]
    omega

-----------------------------------------------------------------------------------------
-- Days of the calendar
-----------------------------------------------------------------------------------------

/-- The day of the calendar that lies in an era, in a year of the era that starts in March, and on a day
of that year. -/
def ofParts (era : Int) (year dayOfYear : Nat) : CivilDate :=
  let shiftedMonth := (5 * dayOfYear + 2) / 153
  let month := if shiftedMonth < 10 then shiftedMonth + 3 else shiftedMonth - 9
  { year := year + era * 400 + (if month ≤ 2 then 1 else 0)
    month
    day := dayOfYear - (153 * shiftedMonth + 2) / 5 + 1 }

/-- A day has parts, and it is told by them. -/
theorem exists_parts (days : Int)
    : ∃ (era : Int) (year dayOfYear : Nat),
        year < 400
        ∧ dayOfYear < yearLength year
        ∧ days + 719468 = era * 146097 + yearStart year + dayOfYear
        ∧ ofDays days = ofParts era year dayOfYear := by
  let dayOfEra := ((days + 719468) % 146097).toNat
  have inside : dayOfEra < 146097 := by omega
  have start := yearStart_le inside
  refine ⟨(days + 719468) / 146097, yearOfDay dayOfEra, dayOfEra - yearStart (yearOfDay dayOfEra),
    yearOfDay_lt inside, day_lt_yearLength inside, by omega, rfl⟩

/-- The month and the day of the month, as the day of a year that starts in March tells them. -/
theorem ofParts_month_day
    : ∀ dayOfYear < 366,
        let date := ofParts 0 0 dayOfYear
        1 ≤ date.month ∧ date.month ≤ 12 ∧ 1 ≤ date.day
        ∧ (date.month ≤ 2 ↔ 306 ≤ dayOfYear)
        ∧ (date.month = 2 → date.day + 336 = dayOfYear)
        ∧ (date.month ≠ 2 → date.day ≤ monthLength 0 date.month)
        ∧ (153 * (if 2 < date.month then date.month - 3 else date.month + 9) + 2) / 5 + date.day - 1
          = dayOfYear := by
  decide +kernel

theorem yearLength_le (year : Nat) : yearLength year ≤ 366 := by
  unfold yearLength
  split <;> omega

/-- The parts of a day count the days up to it. -/
theorem toDays_ofParts (era : Int) {year dayOfYear : Nat} (inEra : year < 400) (inYear : dayOfYear < 366)
    : (ofParts era year dayOfYear).toDays
      = era * 146097 + yearStart year + dayOfYear - 719468 := by
  obtain ⟨_, _, _, _, _, _, same⟩ := ofParts_month_day dayOfYear inYear
  have shifted : (if (ofParts era year dayOfYear).month ≤ 2 then (ofParts era year dayOfYear).year - 1
      else (ofParts era year dayOfYear).year) = year + era * 400 := by
    unfold ofParts
    dsimp only
    split <;> omega
  have within : (year + era * 400) / 400 = era ∧ ((year + era * 400) % 400).toNat = year := by omega
  have month : (ofParts era year dayOfYear).month = (ofParts 0 0 dayOfYear).month := rfl
  have day : (ofParts era year dayOfYear).day = (ofParts 0 0 dayOfYear).day := rfl
  unfold toDays
  rw [shifted]
  dsimp only
  rw [within.1, within.2, month, day, same]
  unfold yearStart
  omega

/-- The day that lies a number of days after the start of 1970 lies that number of days after it. -/
theorem toDays_ofDays (days : Int) : (ofDays days).toDays = days := by
  obtain ⟨era, year, dayOfYear, inEra, inYear, total, same⟩ := exists_parts days
  rw [same, toDays_ofParts era inEra (Nat.lt_of_lt_of_le inYear (yearLength_le year))]
  omega

/-- Every fourth century of years repeats the leap years. -/
theorem isLeapYear_add (year era : Int) : isLeapYear (year + era * 400) = isLeapYear year := by
  have four : (year + era * 400) % 4 = year % 4 := by omega
  have hundred : (year + era * 400) % 100 = year % 100 := by omega
  have all : (year + era * 400) % 400 = year % 400 := by omega
  rw [isLeapYear, isLeapYear, four, hundred, all]

/-- A day of the calendar does not go beyond the length of its month. -/
theorem day_le_monthLength (era : Int) {year dayOfYear : Nat} (inYear : dayOfYear < yearLength year)
    : (ofParts era year dayOfYear).day
      ≤ monthLength (ofParts era year dayOfYear).year (ofParts era year dayOfYear).month := by
  obtain ⟨_, _, _, early, february, other, _⟩ :=
    ofParts_month_day dayOfYear (Nat.lt_of_lt_of_le inYear (yearLength_le year))
  change (ofParts 0 0 dayOfYear).day ≤ monthLength _ (ofParts 0 0 dayOfYear).month
  by_cases second : (ofParts 0 0 dayOfYear).month = 2
  · have after : (ofParts era year dayOfYear).year = (year + 1 : Nat) + era * 400 := by
      have start : (ofParts era year dayOfYear).year
          = year + era * 400 + (if (ofParts 0 0 dayOfYear).month ≤ 2 then 1 else 0) := rfl
      rw [start, if_pos (by omega)]
      omega
    have day := february second
    unfold yearLength at inYear
    rw [monthLength, if_pos second, after, isLeapYear_add]
    split at inYear
    · next leap =>
        rw [if_pos leap]
        omega
    · next plain =>
        rw [if_neg plain]
        omega
  · have length (year : Int) : monthLength year (ofParts 0 0 dayOfYear).month
        = monthLength 0 (ofParts 0 0 dayOfYear).month := by
      rw [monthLength, monthLength, if_neg second, if_neg second]
    rw [length]
    exact other second

/-- The days of the years that a timestamp can name are days of the calendar in these years. -/
theorem isValid_ofDays {days : Int} (least : -96465292 ≤ days) (greatest : days ≤ 95026236)
    : (ofDays days).isValid = true := by
  obtain ⟨era, year, dayOfYear, inEra, inYear, total, same⟩ := exists_parts days
  have length := yearLength_le year
  obtain ⟨month, month', day, early, _⟩ := ofParts_month_day dayOfYear (by omega)
  have calendarYear : (ofParts era year dayOfYear).year
      = year + era * 400 + (if 306 ≤ dayOfYear then 1 else 0) := by
    have start : (ofParts era year dayOfYear).year
        = year + era * 400 + (if (ofParts 0 0 dayOfYear).month ≤ 2 then 1 else 0) := rfl
    rw [start]
    simp only [early]
  have years : leastYear ≤ (ofParts era year dayOfYear).year
      ∧ (ofParts era year dayOfYear).year ≤ greatestYear := by
    rw [calendarYear, leastYear, greatestYear]
    unfold yearStart at total
    have lowEra : -656 ≤ era := by omega
    have highEra : era ≤ 655 := by omega
    split <;> omega
  rw [same]
  simp only [isValid, Bool.and_eq_true, decide_eq_true_eq]
  exact ⟨⟨⟨⟨⟨years.1, years.2⟩, month⟩, month'⟩, day⟩, day_le_monthLength era inYear⟩

/-- The bounds of the month and of the day of a date that exists. -/
theorem bounds_of_isValid {date : CivilDate} (valid : date.isValid = true)
    : (1 ≤ date.month ∧ date.month ≤ 12) ∧ 1 ≤ date.day ∧ date.day ≤ 31 := by
  simp only [isValid, Bool.and_eq_true, decide_eq_true_eq] at valid
  obtain ⟨⟨⟨⟨_, month⟩, month'⟩, day⟩, day'⟩ := valid
  have length : monthLength date.year date.month ≤ 31 := by
    unfold monthLength
    split
    · split <;> omega
    · split <;> omega
  exact ⟨⟨month, month'⟩, day, Nat.le_trans day' length⟩

end EntityStore.CivilDate
