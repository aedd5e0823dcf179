import Mathlib.Algebra.Group.Nat.Defs
import EntityStore.Proofs.Json.Literal
import EntityStore.Proofs.Timestamp.Calendar
import EntityStore.Timestamp.Reader

/-! What is read of the data text of a timestamp.
Each part of the text is scanned as what it was written for and leaves what follows it. The parts make up
the day and the time of the day, a leap second included. So a timestamp is read back, unless it has a second's
worth of nanoseconds more after a second that cannot be a leap second.
-/

namespace EntityStore.Timestamp

open Json Text

-----------------------------------------------------------------------------------------
-- Padded numbers
-----------------------------------------------------------------------------------------

/-- A digit is no white space. -/
theorem isBlank_of_isDigit {c : Char} (digit : Json.isDigit c = true) : Text.isBlank c = false := by
  have bounds := of_decide_eq_true digit
  have low : 48 ≤ c.toNat := bounds.1
  have high : c.toNat ≤ 57 := bounds.2
  simp only [Text.isBlank, isIn, blankRanges, within]
  rw [if_neg (by omega), if_neg (by omega), if_neg (by omega), if_neg (by omega), if_pos (by omega)]

/-- The characters of a padded number. -/
structure Padded (width n : Nat) (chars : List Char) : Prop where
  all : AllDigits chars
  nonempty : chars ≠ []
  value : numberOf chars = n
  length : n < 10 ^ width → chars.length = width

/-- Zeros in front of digits leave their number as it is. -/
theorem numberOf_replicate (count : Nat) (chars : List Char)
    : numberOf (List.replicate count '0' ++ chars) = numberOf chars := by
  induction count with
  | zero => rfl
  | succ count ih => exact ih

theorem padded_padded (width : Nat) (positive : 0 < width) (n : Nat)
    : Padded width n (padded width n).toList := by
  have written : (padded width n).toList
      = List.replicate (width - (Nat.toDigits 10 n).length) '0' ++ Nat.toDigits 10 n := by
    simp [padded, Number.zeros, Number.digitText]
  refine ⟨?_, ?_, ?_, fun small => ?_⟩
  · rw [written]
    intro c inside
    rcases List.mem_append.mp inside with zero | digit
    · rw [List.eq_of_mem_replicate zero]
      decide
    · exact allDigits_toDigits n c digit
  · rw [written]
    exact List.append_ne_nil_of_right_ne_nil _ Nat.toDigits_ne_nil
  · rw [written, numberOf_replicate]
    exact Nat.ofDigitChars_ten_toDigits
  · have fits := (Nat.length_toDigits_le_iff (by decide) positive).mpr small
    rw [written, List.length_append, List.length_replicate]
    omega

variable {width n : Nat} {chars rest : List Char}

theorem takeWhile_append (all : AllDigits chars) (stop : NoDigit rest)
    : (chars ++ rest).takeWhile isDigit = chars :=
  congrArg Prod.fst (digits_append all stop)

/-- A number is scanned where it has the width that is looked for, or where no digit follows it. -/
theorem Padded.scanNumber_append (padded : Padded width n chars) (rest : List Char) {bound : Nat}
    (apart : chars.length = bound ∨ chars.length ≤ bound ∧ NoDigit rest)
    : scanNumber bound (chars ++ rest) = some (n, rest) := by
  have taken : ((chars ++ rest).take bound).takeWhile isDigit = chars := by
    rcases apart with exact | ⟨shorter, stop⟩
    · rw [List.take_left' exact]
      exact congrArg Prod.fst (digits_of_all padded.all)
    · have stop' : NoDigit (rest.take (bound - chars.length)) := by
        intro c first
        cases rest with
        | nil => simp at first
        | cons other rest =>
            cases left : bound - chars.length with
            | zero => simp [left] at first
            | succ more =>
                rw [left] at first
                exact stop c first
      rw [List.take_append, List.take_of_length_le shorter]
      exact takeWhile_append padded.all stop'
  unfold scanNumber
  rw [taken]
  split
  · next none => exact absurd rfl padded.nonempty
  · rw [padded.value, List.drop_left]


/-- Nothing is white space in front of a digit. -/
theorem trimLeft_append (all : AllDigits chars) (some : chars ≠ [])
    : trimLeft (chars ++ rest) = chars ++ rest := by
  cases chars with
  | nil => exact absurd rfl some
  | cons c chars =>
      have visible := isBlank_of_isDigit (all c List.mem_cons_self)
      simp [trimLeft, visible]

theorem trimLeft_cons {c : Char} (visible : Text.isBlank c = false) : trimLeft (c :: rest) = c :: rest := by
  simp [trimLeft, visible]

-----------------------------------------------------------------------------------------
-- Parts of a timestamp
-----------------------------------------------------------------------------------------

/-- A field of two digits is scanned. -/
theorem scanField_padded {least greatest : Nat} (small : greatest < 100)
    (inside : least ≤ n ∧ n ≤ greatest)
    : scanField least greatest ((padded 2 n).toList ++ rest) = some (n, rest) := by
  have written := padded_padded 2 (by decide) n
  have scanned := written.scanNumber_append rest (Or.inl (written.length (by omega)))
  unfold scanField
  rw [trimLeft_append written.all written.nonempty, scanned, Option.bind_eq_bind, Option.bind_some]
  exact if_pos inside

theorem scanMark_cons {mark : Char} (visible : Text.isBlank mark = false)
    : scanMark mark (mark :: rest) = some rest := by
  unfold scanMark
  rw [trimLeft_cons visible]
  exact if_pos rfl

/-- A year is scanned, with its sign where it has one. -/
theorem scanYear_yearText (year : Int) (stop : NoDigit rest)
    : scanYear ((yearText year).toList ++ rest) = some (year, rest) := by
  by_cases four : 0 ≤ year ∧ year ≤ 9999
  · have written := padded_padded 4 (by decide) year.toNat
    have scanned := written.scanNumber_append rest (Or.inl (written.length (by omega)))
    have same : (year.toNat : Int) = year := by omega
    obtain ⟨c, more, form⟩ := List.exists_cons_of_ne_nil written.nonempty
    have digit := written.all c (by rw [form]; exact List.mem_cons_self)
    rw [yearText, if_pos four]
    unfold scanYear
    rw [trimLeft_append written.all written.nonempty]
    split
    · next same =>
        rw [form] at same
        exact absurd (List.cons.inj same).1 (ne_of_isDigit digit (by decide))
    · next same =>
        rw [form] at same
        exact absurd (List.cons.inj same).1 (ne_of_isDigit digit (by decide))
    · rw [scanned, Option.map_some]
      exact congrArg (fun year => some (year, rest)) same
  · have written := padded_padded 4 (by decide) year.natAbs
    have scanned
        : scanNumber ((padded 4 year.natAbs).toList ++ rest).length
            ((padded 4 year.natAbs).toList ++ rest)
          = some (year.natAbs, rest) :=
      written.scanNumber_append rest (Or.inr ⟨by simp, stop⟩)
    rw [yearText, if_neg four, String.toList_append, List.append_assoc]
    by_cases negative : year < 0
    · have same : -(year.natAbs : Int) = year := by omega
      have sign : "-".toList = ['-'] := by simp
      rw [if_pos negative, sign, List.singleton_append]
      unfold scanYear
      rw [trimLeft_cons (by decide)]
      simp only [scanned, Option.map_some, same]
    · have same : (year.natAbs : Int) = year := by omega
      have sign : "+".toList = ['+'] := by simp
      rw [if_neg negative, sign, List.singleton_append]
      unfold scanYear
      rw [trimLeft_cons (by decide)]
      simp only [scanned, Option.map_some, same]

/-- A fraction of at most nine digits is scanned and filled up to nanoseconds. -/
theorem scanFraction_padded (few : 0 < width ∧ width ≤ 9) (small : n < 10 ^ width) (stop : NoDigit rest)
    : scanFraction ('.' :: ((padded width n).toList ++ rest)) = some (n * 10 ^ (9 - width), rest) := by
  have written := padded_padded width few.1 n
  have length := written.length small
  have scanned := takeWhile_append written.all stop
  rw [scanFraction, scanned]
  split
  · next empty => exact absurd empty written.nonempty
  · rw [List.take_of_length_le (by omega)]
    dsimp only
    rw [written.value, List.drop_left, length, Nat.pow_eq]

/-- The nanoseconds are scanned, in as many digits as they have. -/
theorem scanFraction_fractionText {nanos : Nat} (small : nanos < 1000000000) (stop : NoDigit rest)
    (point : rest.head? ≠ some '.')
    : scanFraction ((fractionText nanos).toList ++ rest) = some (nanos, rest) := by
  have fraction (width n : Nat) (few : 0 < width ∧ width ≤ 9) (small : n < 10 ^ width)
      (same : n * 10 ^ (9 - width) = nanos)
      : scanFraction (("." ++ padded width n).toList ++ rest) = some (nanos, rest) := by
    have point : ".".toList = ['.'] := by simp
    rw [String.toList_append, List.append_assoc, point, List.singleton_append, ← same]
    exact scanFraction_padded few small stop
  unfold fractionText
  split
  · next zero =>
      rw [zero]
      unfold scanFraction
      split
      · next same =>
          rw [show "".toList ++ rest = rest by simp] at same
          rw [same] at point
          exact absurd rfl point
      · rfl
  · split
    · exact fraction 3 _ (by decide) (by omega) (by omega)
    · split
      · exact fraction 6 _ (by decide) (by omega) (by omega)
      · exact fraction 9 _ (by decide) (by omega) (by omega)

-----------------------------------------------------------------------------------------
-- Timestamps
-----------------------------------------------------------------------------------------

/-- A part of a text that starts like this is followed by no digit. -/
theorem noDigit_cons {c : Char} (other : Json.isDigit c = false) : NoDigit (c :: rest) := by
  intro first same
  cases same
  exact other

/-- The data text, part by part. -/
theorem toList_dataText (t : Timestamp)
    : t.dataText.toList
      = (yearText (CivilDate.ofDays (t.seconds / 86400)).year).toList
        ++ '-' :: ((padded 2 (CivilDate.ofDays (t.seconds / 86400)).month).toList
        ++ '-' :: ((padded 2 (CivilDate.ofDays (t.seconds / 86400)).day).toList
        ++ 'T' :: ((padded 2 ((t.seconds % 86400).toNat / 3600)).toList
        ++ ':' :: ((padded 2 ((t.seconds % 86400).toNat / 60 % 60)).toList
        ++ ':' :: ((padded 2 ((t.seconds % 86400).toNat % 60
            + if 1000000000 ≤ t.nanos then 1 else 0)).toList
        ++ ((fractionText (if 1000000000 ≤ t.nanos then t.nanos - 1000000000 else t.nanos)).toList
        ++ ['Z'])))))) := by
  simp [dataText, localText]

/-- The text of a date and a time of day in universal time names a point in time. The sixtieth second of a
minute is a leap second: it counts as the one before it with a second more in its fraction.
-/
theorem read?_parts {text : String} {date : CivilDate} {hour minute second nanos : Nat}
    {fraction : List Char} {t : Timestamp} (valid : date.isValid = true)
    (hours : hour ≤ 23) (minutes : minute ≤ 59) (seconds : second ≤ 60)
    (scanned : scanFraction (fraction ++ ['Z']) = some (nanos, ['Z']))
    (written : text.toList
      = (yearText date.year).toList
        ++ '-' :: ((padded 2 date.month).toList
        ++ '-' :: ((padded 2 date.day).toList
        ++ 'T' :: ((padded 2 hour).toList
        ++ ':' :: ((padded 2 minute).toList
        ++ ':' :: ((padded 2 second).toList ++ (fraction ++ ['Z'])))))))
    (instant : ofUnix?
        (date.toDays * 86400 + hour * 3600 + minute * 60 + (if second = 60 then 59 else second : Nat))
        (if second = 60 then 1000000000 + nanos else nanos)
      = some t)
    : read? text = some t := by
  obtain ⟨month, day⟩ := CivilDate.bounds_of_isValid valid
  have dash (rest : List Char) : scanMark '-' ('-' :: rest) = some rest := scanMark_cons (by decide)
  have colon (rest : List Char) : scanMark ':' (':' :: rest) = some rest := scanMark_cons (by decide)
  have rest
      : ¬ ((!(trimLeft []).isEmpty) = true ∨ (!date.isValid) = true ∨ 86400 ≤ Int.natAbs 0) := by
    rw [valid]
    decide
  unfold read?
  rw [written]
  refine Option.bind_eq_some_iff.mpr ⟨_, scanYear_yearText date.year (noDigit_cons (by decide)), ?_⟩
  refine Option.bind_eq_some_iff.mpr ⟨_, dash _, ?_⟩
  refine Option.bind_eq_some_iff.mpr ⟨_, scanField_padded (by decide) month, ?_⟩
  refine Option.bind_eq_some_iff.mpr ⟨_, dash _, ?_⟩
  refine Option.bind_eq_some_iff.mpr ⟨_, scanField_padded (by decide) day, ?_⟩
  refine (if_pos (Or.inr (Or.inl rfl))).trans ?_
  refine Option.bind_eq_some_iff.mpr ⟨_, rfl, ?_⟩
  refine Option.bind_eq_some_iff.mpr ⟨_, scanField_padded (by decide) ⟨hour.zero_le, hours⟩, ?_⟩
  refine Option.bind_eq_some_iff.mpr ⟨_, colon _, ?_⟩
  refine Option.bind_eq_some_iff.mpr ⟨_, scanField_padded (by decide) ⟨minute.zero_le, minutes⟩, ?_⟩
  refine Option.bind_eq_some_iff.mpr ⟨_, colon _, ?_⟩
  refine Option.bind_eq_some_iff.mpr ⟨_, scanField_padded (by decide) ⟨second.zero_le, seconds⟩, ?_⟩
  refine Option.bind_eq_some_iff.mpr ⟨_, scanned, ?_⟩
  refine Option.bind_eq_some_iff.mpr ⟨(0, []), by decide, ?_⟩
  refine (if_neg rest).trans ?_
  exact (congrArg (ofUnix? · _) (Int.sub_zero _)).trans instant

/-- The fraction is less than a second, or it makes a leap second. -/
def lasts (t : Timestamp) : Bool :=
  t.nanos < 1000000000 || t.seconds % 60 = 59

theorem not_lasts_iff {t : Timestamp}
    : ¬ t.lasts = true ↔ 1000000000 ≤ t.nanos ∧ t.seconds % 60 ≠ 59 := by
  simp [lasts]

/-- The point in time that the data text of a timestamp names. -/
def named (t : Timestamp) : Timestamp :=
  if lasts : t.lasts then t
  else
    { seconds := t.seconds + 1
      nanos := t.nanos - 1000000000
      inRange := by
        have inRange := t.inRange
        have early := (not_lasts_iff.mp lasts).2
        omega
      subsecond := by
        have subsecond := t.subsecond
        omega }

/-- A timestamp is the one that its text names exactly where its fraction is less than a second or makes a
leap second. -/
theorem named_eq_iff (t : Timestamp) : t.named = t ↔ t.lasts = true := by
  unfold named
  split
  · next lasts => exact iff_of_true rfl lasts
  · next moved =>
      refine iff_of_false (fun same => ?_) moved
      have seconds := congrArg Timestamp.seconds same
      dsimp only at seconds
      omega

theorem ofUnix?_of_lasts {t : Timestamp} (lasts : t.lasts = true)
    : ofUnix? t.seconds t.nanos = some t := by
  have subsecond := t.subsecond
  have allowed : t.nanos < 1000000000 ∨ t.nanos < 2000000000 ∧ t.seconds % 60 = 59 := by
    simp only [Timestamp.lasts, Bool.or_eq_true, decide_eq_true_eq] at lasts
    omega
  unfold ofUnix?
  rw [dif_pos t.inRange, dif_pos allowed]

/-- The seconds of a timestamp that its text names, where they are written as one more if it has a second's
worth of nanoseconds. -/
theorem ofUnix?_written (t : Timestamp) {start : Int} {second : Nat} (small : second < 60)
    (seconds : start + second = t.seconds) (minute : start % 60 = 0)
    : let late := 1000000000 ≤ t.nanos
      let shown := second + if late then 1 else 0
      let nanos := if late then t.nanos - 1000000000 else t.nanos
      ofUnix? (start + (if shown = 60 then 59 else shown : Nat))
          (if shown = 60 then 1000000000 + nanos else nanos)
        = some t.named := by
  intro late shown nanos
  have subsecond := t.subsecond
  by_cases lasts : t.lasts = true
  · have same : start + (if shown = 60 then 59 else shown : Nat) = t.seconds
        ∧ (if shown = 60 then 1000000000 + nanos else nanos) = t.nanos := by
      simp only [Timestamp.lasts, Bool.or_eq_true, decide_eq_true_eq] at lasts
      simp only [shown, nanos, late]
      by_cases leap : 1000000000 ≤ t.nanos
      · rw [if_pos leap, if_pos leap, if_pos (by omega), if_pos (by omega)]
        omega
      · rw [if_neg leap, if_neg leap, if_neg (by omega), if_neg (by omega)]
        omega
    rw [same.1, same.2, ofUnix?_of_lasts lasts, named, dif_pos lasts]
  · have settled : t.named.lasts = true := by
      rw [named, dif_neg lasts]
      simp only [Timestamp.lasts, Bool.or_eq_true, decide_eq_true_eq]
      omega
    have moved : start + (if shown = 60 then 59 else shown : Nat) = t.named.seconds
        ∧ (if shown = 60 then 1000000000 + nanos else nanos) = t.named.nanos := by
      obtain ⟨leap, early⟩ := not_lasts_iff.mp lasts
      simp only [shown, nanos, late, named, dif_neg lasts]
      rw [if_pos leap, if_pos leap, if_neg (by omega), if_neg (by omega)]
      omega
    rw [moved.1, moved.2, ofUnix?_of_lasts settled]

/-- What is read of the data text of a timestamp. Only a leap second is written as a sixtieth one; another
second with as many nanoseconds is written as the next one. -/
theorem read?_dataText (t : Timestamp) : read? t.dataText = some t.named := by
  have inRange := t.inRange
  have subsecond := t.subsecond
  have valid : (CivilDate.ofDays (t.seconds / 86400)).isValid = true :=
    CivilDate.isValid_ofDays (by omega) (by omega)
  have fraction
      : scanFraction
          ((fractionText (if 1000000000 ≤ t.nanos then t.nanos - 1000000000 else t.nanos)).toList
            ++ ['Z'])
        = some (if 1000000000 ≤ t.nanos then t.nanos - 1000000000 else t.nanos, ['Z']) :=
    scanFraction_fractionText (by split <;> omega) (noDigit_cons (by decide)) (by decide)
  refine read?_parts valid (by omega) (by omega) (by split <;> omega) fraction (toList_dataText t) ?_
  rw [CivilDate.toDays_ofDays]
  exact ofUnix?_written t (by omega) (by omega) (by omega)

end EntityStore.Timestamp
