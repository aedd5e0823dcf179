import EntityStore.Text.Cluster
import EntityStore.Text.Identifier
import EntityStore.Text.Letter
import Mathlib.Tactic.SplitIfs

/-! The case of the characters of identifiers.
A character can start or go on with an identifier exactly if its small letters can, and exactly if
its capitals can. The tables of characters are compared as numbers whose bits are code points: a
run of letters leaves a set as it is when the bits at the run equal the bits at its images.
-/

namespace EntityStore.Text

-----------------------------------------------------------------------------------------
-- Sets of code points as numbers
-----------------------------------------------------------------------------------------

/-- The number whose bits are the code points of the ranges. -/
def bits : List Range → Nat
  | [] => 0
  | (first, last) :: rest => bits rest ||| (1 <<< (last + 1 - first) - 1) <<< first

/-- The ranges follow each other from a code point on. -/
def ascends (bound : Nat) : List Range → Bool
  | [] => true
  | (first, last) :: rest => bound.ble first && first.ble last && ascends (last + 1) rest

variable {ranges : List Range} {bound code : Nat}

/-- Witness: induction on the ranges, with the code points before the first one in none of them. -/
private theorem within_eq_and_before (ascending : ascends bound ranges)
    : within ranges code = (bits ranges).testBit code
      ∧ (code < bound → within ranges code = false) := by
  induction ranges generalizing bound with
  | nil => simp [within, bits]
  | cons range rest ih =>
      obtain ⟨first, last⟩ := range
      simp only [ascends, Bool.and_eq_true, Nat.ble_eq] at ascending
      obtain ⟨⟨fromBound, ordered⟩, later⟩ := ascending
      obtain ⟨same, before⟩ := ih later
      simp only [within, bits, Nat.testBit_or, Nat.testBit_shiftLeft, Nat.one_shiftLeft,
        Nat.testBit_two_pow_sub_one, ← same]
      split_ifs with early inside
      · rw [before (by omega)]
        simp
        omega
      · simp
        omega
      · simp
        omega

/-- The bits of ascending ranges are the code points in them. -/
theorem within_eq_testBit (ascending : ascends bound ranges)
    : within ranges code = (bits ranges).testBit code :=
  (within_eq_and_before ascending).1

/-- The only bit of a single character is its code point. -/
theorem testBit_single (single : Char) (c : Char)
    : (bits [(single.toNat, single.toNat)]).testBit c.toNat = decide (c = single) := by
  have ascending : ascends 0 [(single.toNat, single.toNat)] := by
    simp [ascends]
  have same : c.toNat = single.toNat ↔ c = single := Char.toNat_inj
  rw [← within_eq_testBit ascending, Bool.eq_iff_iff, decide_eq_true_iff, ← same]
  simp only [within]
  split_ifs <;> simp <;> omega

/-- The number whose bits are the multiples of a stride, up to the given one. -/
def comb (stride : Nat) : Nat → Nat
  | 0 => 1
  | count + 1 => comb stride count ||| 1 <<< (stride * (count + 1))

theorem testBit_comb {stride count step : Nat} (reached : step ≤ count)
    : (comb stride count).testBit (stride * step) = true := by
  induction count with
  | zero =>
      obtain rfl : step = 0 := by omega
      simp [comb]
  | succ count ih =>
      simp only [comb, Nat.testBit_or, Bool.or_eq_true]
      rcases Nat.lt_or_eq_of_le reached with earlier | rfl
      · exact .inl (ih (by omega))
      · simp [Nat.testBit_shiftLeft]

-----------------------------------------------------------------------------------------
-- Sets under case mappings
-----------------------------------------------------------------------------------------

namespace Run

/-- The run maps the code point. -/
def Maps (run : Run) (code : Nat) : Prop :=
  run.first ≤ code ∧ code ≤ run.last ∧ (code - run.first) % run.stride = 0

/-- What the run maps a code point to. -/
def image (run : Run) (code : Nat) : Nat :=
  (code + run.offset).toNat

/-- The code points of the run, counted from the first of them. -/
def steps (run : Run) : Nat :=
  comb run.stride ((run.last - run.first) / run.stride)

/-- A code point of the run is in the set exactly if its image is. -/
def keeps (set : Nat) (run : Run) : Bool :=
  0 ≤ run.first + run.offset
    && (set >>> run.first) &&& run.steps == (set >>> run.image run.first) &&& run.steps

/-- No code point of the run is in the set. -/
def avoids (set : Nat) (run : Run) : Bool :=
  (set >>> run.first) &&& run.steps == 0

/-- All code points of the run are in the set. -/
def fills (set : Nat) (run : Run) : Bool :=
  (set >>> run.first) &&& run.steps == run.steps

variable {run : Run} {set : Nat}

/-- The bit of a code point of the run among the bits from the first one on. -/
theorem testBit_from (set : Nat) (mapped : run.Maps code)
    : ((set >>> run.first) &&& run.steps).testBit (code - run.first) = set.testBit code
      ∧ run.steps.testBit (code - run.first) = true := by
  obtain ⟨lower, upper, onStep⟩ := mapped
  have parts := Nat.div_add_mod (code - run.first) run.stride
  rw [onStep, Nat.add_zero] at parts
  have stepped : run.steps.testBit (code - run.first) = true := by
    rw [← parts]
    exact testBit_comb (Nat.div_le_div_right (by omega))
  refine ⟨?_, stepped⟩
  rw [Nat.testBit_and, stepped, Bool.and_true, Nat.testBit_shiftRight, Nat.add_sub_cancel' lower]

theorem testBit_image (kept : run.keeps set) (mapped : run.Maps code)
    : set.testBit (run.image code) = set.testBit code := by
  simp only [keeps, Bool.and_eq_true, decide_eq_true_eq, beq_iff_eq] at kept
  obtain ⟨present, same⟩ := kept
  obtain ⟨here, stepped⟩ := testBit_from set mapped
  have moved : run.image run.first + (code - run.first) = run.image code := by
    have lower := mapped.1
    simp only [image]
    omega
  rw [← here, same, Nat.testBit_and, stepped, Bool.and_true, Nat.testBit_shiftRight, moved]

theorem not_maps_of_avoids (avoided : run.avoids set) (member : set.testBit code = true)
    : ¬ run.Maps code := by
  intro mapped
  rw [avoids, beq_iff_eq] at avoided
  have here := (testBit_from set mapped).1
  rw [avoided, Nat.zero_testBit, member] at here
  exact Bool.false_ne_true here

theorem testBit_of_fills (filled : run.fills set) (mapped : run.Maps code)
    : set.testBit code = true := by
  rw [fills, beq_iff_eq] at filled
  obtain ⟨here, stepped⟩ := testBit_from set mapped
  rw [← here, filled, stepped]

end Run

variable {runs : List Run} {set : Nat}

/-- Witness: induction on the runs up to the one that maps the code point. -/
theorem testBit_applyRuns (kept : ∀ run ∈ runs, run.Maps code → run.keeps set)
    : set.testBit (applyRuns runs code) = set.testBit code := by
  induction runs with
  | nil => rfl
  | cons run rest ih =>
      simp only [applyRuns]
      split_ifs with mapped
      · exact Run.testBit_image (kept run (by simp) mapped) mapped
      · exact ih fun other member => kept other (by simp [member])

/-- A code point of a set that all runs avoid is its own image. -/
theorem applyRuns_eq_self (avoided : ∀ run ∈ runs, run.avoids set)
    (member : set.testBit code = true)
    : applyRuns runs code = code := by
  induction runs with
  | nil => rfl
  | cons run rest ih =>
      have passed : ¬ run.Maps code := Run.not_maps_of_avoids (avoided run (by simp)) member
      exact (if_neg passed).trans (ih fun other listed => avoided other (by simp [listed]))

-----------------------------------------------------------------------------------------
-- Characters
-----------------------------------------------------------------------------------------

/-- The code points of characters. -/
def characters : Nat :=
  bits [(0, 0xd7ff), (0xe000, 0x10ffff)]

/-- The code points that start identifiers. -/
def starters : Nat :=
  bits [(0x5f, 0x5f)] ||| bits identifierStartRanges

/-- The code points that go on with identifiers. -/
def continuers : Nat :=
  bits identifierContinueRanges

/-- The code points that belong to the one before them. -/
def attachers : Nat :=
  bits extenderRanges ||| bits skinRanges ||| bits [(0x200d, 0x200d)] ||| bits spacingRanges

/-- The code points of control characters. -/
def controls : Nat :=
  bits controlRanges

/-- The code points of characters that lead others. -/
def leaders : Nat :=
  bits leaderRanges

/-- The code points that something else than a mark may belong to. -/
def binders : Nat :=
  controls ||| leaders ||| bits initialRanges ||| bits medialRanges ||| bits finalRanges
    ||| bits syllableRanges ||| bits consonantRanges ||| bits pictureRanges ||| bits flagRanges

/-- What has been looked up in the tables of characters and of their case, for all entries at once. -/
class TablesAgree : Prop where
  startsAscend : ascends 0 identifierStartRanges
  continuesAscend : ascends 0 identifierContinueRanges
  extendersAscend : ascends 0 extenderRanges
  marksAscend : ascends 0 markRanges
  spacingAscends : ascends 0 spacingRanges
  startersContinue : starters &&& continuers = starters
  attachersBehind : attachers &&& bits [(0, 0x2ff)] = 0
  attachersBindNothing : attachers &&& binders = 0
  lowerValid : lowerRuns.all (Run.keeps characters)
  upperValid : upperRuns.all (Run.keeps characters)
  lowerContinues : lowerRuns.all (Run.keeps continuers)
  lowerStarts : lowerRuns.all (Run.keeps starters)
  lowerMarks : lowerRuns.all (Run.avoids (attachers ||| bits markRanges))
  upperContinues : upperRuns.all (Run.keeps continuers)
  /-- The combining iota has a letter as its capital. -/
  upperStarts
    : upperRuns.all fun run => run.keeps starters || run.avoids starters && run.fills attachers
  capitalsContinue
    : upperSequences.all fun (code, codes) =>
        (codes.map Char.ofNat).all (continuers.testBit ·.toNat) == continuers.testBit code
  capitalsStart
    : upperSequences.all fun (code, codes) =>
        codes.head?.any fun first =>
          starters.testBit (Char.ofNat first).toNat == starters.testBit code
  dotContinues
    : (lower (Char.ofNat 0x130)).all (continuers.testBit ·.toNat) = continuers.testBit 0x130
  dotStarts : starters.testBit 'i'.toNat = starters.testBit 0x130
  dotMarks : (attachers ||| bits markRanges).testBit 0x130 = false

-- An instance, so that the tables are looked through once, before the theorems that rest on them.
/-- Witness: one look at every entry, where the sets are numbers and their bits the members. -/
private instance tables : TablesAgree := by
  constructor <;> decide +kernel

theorem testBit_characters : characters.testBit code = true ↔ code.isValidChar := by
  rw [characters, ← within_eq_testBit (show ascends 0 _ by decide)]
  simp only [within, Nat.isValidChar]
  split_ifs <;> simp <;> omega

theorem startsIdentifier_eq_testBit (c : Char) : startsIdentifier c = starters.testBit c.toNat := by
  have underscore := testBit_single '_' c
  rw [startsIdentifier, starters, Nat.testBit_or, isIn, within_eq_testBit tables.startsAscend]
  exact congrArg (· || _) underscore.symm

theorem continuesIdentifier_eq_testBit (c : Char)
    : continuesIdentifier c = continuers.testBit c.toNat := by
  rw [continuesIdentifier, continuers, isIn, within_eq_testBit tables.continuesAscend]

/-- A character that can start an identifier can go on with one. -/
theorem continues_of_starts {c : Char} (starts : startsIdentifier c) : continuesIdentifier c := by
  rw [startsIdentifier_eq_testBit, ← tables.startersContinue, Nat.testBit_and,
    Bool.and_eq_true] at starts
  rw [continuesIdentifier_eq_testBit, starts.2]

theorem isAttached_eq_testBit (c : Char) : isAttached c = attachers.testBit c.toNat := by
  have joins : (bits [(0x200d, 0x200d)]).testBit c.toNat = (c == joiner) := testBit_single joiner c
  simp only [isAttached, isModifier, isExtender, isIn, attachers, Nat.testBit_or, joins,
    within_eq_testBit tables.extendersAscend, within_eq_testBit tables.spacingAscends,
    within_eq_testBit (show ascends 0 skinRanges by decide)]

/-- Code points of sets that are apart are not in both. -/
theorem testBit_of_apart {others : Nat} (apart : set &&& others = 0)
    (member : set.testBit code = true)
    : others.testBit code = false := by
  have both := congrArg (Nat.testBit · code) apart
  simpa [member] using both

/-- The characters that belong to others stand behind those of plain text. -/
theorem le_of_isAttached {c : Char} (attached : isAttached c) : 0x300 ≤ c.toNat := by
  rw [isAttached_eq_testBit] at attached
  have high := testBit_of_apart tables.attachersBehind attached
  rw [← within_eq_testBit (show ascends 0 [(0, 0x2ff)] by decide)] at high
  simp only [within] at high
  split_ifs at high <;> omega

-----------------------------------------------------------------------------------------
-- Small letters and capitals
-----------------------------------------------------------------------------------------

/-- Runs that keep the code points of characters map characters to characters. -/
theorem toNat_applyRuns (valid : runs.all (Run.keeps characters)) (c : Char)
    : (Char.ofNat (applyRuns runs c.toNat)).toNat = applyRuns runs c.toNat := by
  have here := testBit_characters.mpr c.valid
  have moved : characters.testBit (applyRuns runs c.toNat) = characters.testBit c.toNat :=
    testBit_applyRuns fun run member _ => List.all_eq_true.mp valid run member
  have there := testBit_characters.mp (moved.trans here)
  rw [Char.ofNat, dif_pos there]
  rfl

/-- A character goes on with identifiers exactly if its small letters do. -/
theorem lower_continues (c : Char) : (lower c).all continuesIdentifier = continuesIdentifier c := by
  rw [funext continuesIdentifier_eq_testBit]
  by_cases dotted : c.toNat = 0x130
  · obtain rfl : c = Char.ofNat 0x130 := Char.toNat_inj.mp dotted
    exact tables.dotContinues
  · rw [lower, if_neg dotted, List.all_cons, List.all_nil, Bool.and_true,
      toNat_applyRuns tables.lowerValid]
    exact testBit_applyRuns fun run member _ =>
      List.all_eq_true.mp tables.lowerContinues run member

/-- A character starts identifiers exactly if the first of its small letters does. -/
theorem lower_starts (c : Char)
    : ∃ small more, lower c = small :: more ∧ startsIdentifier small = startsIdentifier c := by
  simp only [startsIdentifier_eq_testBit, lower]
  split_ifs with dotted
  · refine ⟨_, _, rfl, ?_⟩
    rw [dotted, tables.dotStarts]
  · refine ⟨_, _, rfl, ?_⟩
    rw [toNat_applyRuns tables.lowerValid]
    exact testBit_applyRuns fun run member _ => List.all_eq_true.mp tables.lowerStarts run member

/-- Marks have no case. -/
theorem lower_of_mark {c : Char} (mark : isAttached c ∨ isMark c) : lower c = [c] := by
  have member : (attachers ||| bits markRanges).testBit c.toNat = true := by
    rw [Nat.testBit_or, Bool.or_eq_true, ← isAttached_eq_testBit,
      ← within_eq_testBit tables.marksAscend]
    exact mark
  have other : c.toNat ≠ 0x130 := by
    intro dotted
    rw [dotted] at member
    exact Bool.false_ne_true (tables.dotMarks.symm.trans member)
  rw [lower, if_neg other, applyRuns_eq_self (List.all_eq_true.mp tables.lowerMarks) member,
    Char.ofNat_toNat]

/-- Witness: the capitals that consist of several characters are looked through one by one. -/
theorem upper_continues (c : Char) : (upper c).all continuesIdentifier = continuesIdentifier c := by
  rw [funext continuesIdentifier_eq_testBit, upper]
  split
  next codes found =>
    obtain ⟨before, after, parts, -⟩ := List.lookup_eq_some_iff.mp found
    have member : (c.toNat, codes) ∈ upperSequences := by
      simp [parts]
    exact beq_iff_eq.mp (List.all_eq_true.mp tables.capitalsContinue _ member)
  next =>
    rw [List.all_cons, List.all_nil, Bool.and_true, toNat_applyRuns tables.upperValid]
    exact testBit_applyRuns fun run member _ =>
      List.all_eq_true.mp tables.upperContinues run member

/-- A character starts identifiers exactly if the first of its capitals does. Only the combining
iota differs, whose capital is a letter. -/
theorem upper_starts {c : Char} (letter : startsIdentifier c ∨ isAttached c = false)
    : ∃ capital more, upper c = capital :: more ∧ startsIdentifier capital = startsIdentifier c := by
  rw [startsIdentifier_eq_testBit, isAttached_eq_testBit] at letter
  simp only [startsIdentifier_eq_testBit, upper]
  split
  next codes found =>
    obtain ⟨before, after, parts, -⟩ := List.lookup_eq_some_iff.mp found
    have member : (c.toNat, codes) ∈ upperSequences := by
      simp [parts]
    have first := List.all_eq_true.mp tables.capitalsStart _ member
    cases codes with
    | nil => simp at first
    | cons code rest => exact ⟨_, _, rfl, by simpa using first⟩
  next =>
    refine ⟨_, _, rfl, ?_⟩
    rw [toNat_applyRuns tables.upperValid]
    refine testBit_applyRuns fun run member mapped => ?_
    rcases Bool.or_eq_true_iff.mp (List.all_eq_true.mp tables.upperStarts run member)
      with keeps | apart
    · exact keeps
    · obtain ⟨avoids, fills⟩ := Bool.and_eq_true_iff.mp apart
      rcases letter with starts | single
      · exact absurd mapped (Run.not_maps_of_avoids avoids starts)
      · rw [Run.testBit_of_fills fills mapped] at single
        exact absurd single (by simp)

end EntityStore.Text
