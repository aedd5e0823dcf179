import EntityStore.Predicate.Comparison
import EntityStore.Proofs.Text.Identifier
import Mathlib.Data.List.Chain
import Mathlib.Data.List.Infix

/-! Texts that contain each other when case and diacritics are ignored.
Only marks change places when a decomposition is put in canonical order, and marks are dropped. A text is
therefore folded character by character, wherever it is split, and what looks for a text finds it wherever it
stands. What is left after folding are small letters in their plain spelling, which fold to themselves.
-/

namespace EntityStore.Text

-----------------------------------------------------------------------------------------
-- Canonical order
-----------------------------------------------------------------------------------------

/-- A character in front of others that are in canonical order. It goes behind the marks of lower ranks that
come first. A character of rank zero stays where it is, and nothing passes it.
-/
def place (rank : Char → Nat) (c : Char) : List Char → List Char
  | [] => [c]
  | d :: rest => if 0 < rank d ∧ rank d < rank c then d :: place rank c rest else c :: d :: rest

/-- The characters in canonical order. -/
def arrange (rank : Char → Nat) : List Char → List Char
  | [] => []
  | c :: rest => place rank c (arrange rank rest)

/-- The folding of a text. Its canonical decomposition is put in order by the ranks of the marks, and then its
marks are dropped and its letters are spelled small and plain.
-/
def fold (rank : Char → Nat) (text : String) : String :=
  let decomposed := arrange rank (text.toList.flatMap decompose)
  String.ofList (((decomposed.filter (fun c => !isMark c)).flatMap lower).flatMap spellOut)

section CanonicalOrder

variable {rank : Char → Nat}

theorem place_perm (c : Char) (rest : List Char) : (place rank c rest).Perm (c :: rest) := by
  induction rest with
  | nil => exact .refl _
  | cons d rest ih =>
      simp only [place]
      split_ifs
      · exact (ih.cons d).trans (.swap c d rest)
      · exact .refl _

theorem arrange_perm (chars : List Char) : (arrange rank chars).Perm chars := by
  induction chars with
  | nil => exact .refl _
  | cons c rest ih => exact (place_perm c _).trans (ih.cons c)

/-- What precedes a character of some rank has no higher rank. -/
def InOrder (rank : Char → Nat) : List Char → Prop :=
  List.IsChain fun c d => rank d = 0 ∨ rank c ≤ rank d

/-- Witness: the character is passed by the ones before its place, all of lower ranks. -/
theorem place_inOrder (c : Char) {rest : List Char} (ordered : InOrder rank rest)
    : InOrder rank (place rank c rest) := by
  induction rest with
  | nil => exact .singleton c
  | cons d rest ih =>
      simp only [place]
      split_ifs with passed
      · have placed := ih ordered.tail
        cases rest with
        | nil => exact .cons_cons (.inr passed.2.le) placed
        | cons e rest =>
            have next := (List.isChain_cons_cons.mp ordered).1
            simp only [place] at placed ⊢
            split_ifs at placed ⊢
            · exact .cons_cons next placed
            · exact .cons_cons (.inr passed.2.le) placed
      · exact .cons_cons (by omega) ordered

/-- No mark that is left in front of another could still be moved behind it. -/
theorem arrange_inOrder (chars : List Char) : InOrder rank (arrange rank chars) := by
  induction chars with
  | nil => exact .nil
  | cons c rest ih => exact place_inOrder c ih

/-- A mark leaves its place only where it passes other marks. -/
theorem filter_place (marks : ∀ c, rank c ≠ 0 → isMark c = true) (c : Char) (rest : List Char)
    : (place rank c rest).filter (fun c => !isMark c) = (c :: rest).filter (fun c => !isMark c) := by
  induction rest with
  | nil => rfl
  | cons d rest ih =>
      simp only [place]
      split_ifs with passed
      · have marked : isMark c = true := marks c (by omega)
        have passedMark : isMark d = true := marks d (by omega)
        rw [List.filter_cons, ih]
        simp [marked, passedMark]
      · rfl

theorem filter_arrange (marks : ∀ c, rank c ≠ 0 → isMark c = true) (chars : List Char)
    : (arrange rank chars).filter (fun c => !isMark c) = chars.filter (fun c => !isMark c) := by
  induction chars with
  | nil => rfl
  | cons c rest ih =>
      rw [arrange, filter_place marks, List.filter_cons, List.filter_cons, ih]

/-- A text folds character by character. -/
theorem toList_fold (marks : ∀ c, rank c ≠ 0 → isMark c = true) (text : String)
    : (fold rank text).toList = foldChars text.toList := by
  simp only [fold, String.toList_ofList, filter_arrange marks, List.filter_flatMap, List.flatMap_assoc,
    foldChars, funext foldChar.eq_1]

end CanonicalOrder

-----------------------------------------------------------------------------------------
-- Sets of code points
-----------------------------------------------------------------------------------------

/-- The members of the first set that are not in the second one. -/
def without (set other : Nat) : Nat :=
  set ^^^ (set &&& other)

@[simp] theorem testBit_without {set other code : Nat}
    : (without set other).testBit code = (set.testBit code && !other.testBit code) := by
  rw [without, Nat.testBit_xor, Nat.testBit_and]
  cases set.testBit code <;> simp

/-- The code points that have an entry. -/
def keys : List (Nat × List Nat) → Nat
  | [] => 0
  | (code, _) :: rest => keys rest ||| 1 <<< code

theorem testBit_keys {entries : List (Nat × List Nat)} {code : Nat}
    : (keys entries).testBit code = (entries.lookup code).isSome := by
  induction entries with
  | nil => simp [keys]
  | cons entry rest ih =>
      rw [keys, Nat.testBit_or, ih, Nat.one_shiftLeft, Nat.testBit_two_pow, List.lookup_cons]
      by_cases here : code = entry.1
      · simp [here]
      · simp [beq_false_of_ne here, Ne.symm here]

theorem testBit_bits_singleton {first last code : Nat} (ordered : first ≤ last)
    : (bits [(first, last)]).testBit code = decide (first ≤ code ∧ code ≤ last) := by
  rw [← within_eq_testBit (show ascends 0 _ by simp [ascends, ordered])]
  simp only [within]
  split_ifs <;> simp <;> omega

theorem mem_of_lookup {κ α : Type} [BEq κ] [LawfulBEq κ] {entries : List (κ × α)} {key : κ} {value : α}
    (found : entries.lookup key = some value)
    : (key, value) ∈ entries := by
  obtain ⟨before, after, parts, -⟩ := List.lookup_eq_some_iff.mp found
  simp [parts]

-----------------------------------------------------------------------------------------
-- Sets that runs map into each other
-----------------------------------------------------------------------------------------

theorem testBit_comb_iff {stride count code : Nat}
    : (comb stride count).testBit code = true ↔ ∃ step ≤ count, code = stride * step := by
  refine ⟨fun member => ?_, fun ⟨step, reached, steps⟩ => steps ▸ testBit_comb reached⟩
  induction count with
  | zero => exact ⟨0, Nat.le_refl 0, by simpa [comb, Nat.testBit_one_eq_true_iff_self_eq_zero] using member⟩
  | succ count ih =>
      rw [comb, Nat.testBit_or, Bool.or_eq_true, Nat.one_shiftLeft, Nat.testBit_two_pow,
        decide_eq_true_eq] at member
      rcases member with earlier | last
      · obtain ⟨step, reached, steps⟩ := ih earlier
        exact ⟨step, by omega, steps⟩
      · exact ⟨count + 1, Nat.le_refl _, last.symm⟩

/-- The code points that one of the runs maps. -/
def sources : List Run → Nat
  | [] => 0
  | run :: rest => sources rest ||| run.steps <<< run.first

namespace Run

/-- What the run maps from the first set is in the second one. -/
def carries (set target : Nat) (run : Run) : Bool :=
  0 ≤ run.first + run.offset
    && set >>> run.first &&& run.steps &&& target >>> run.image run.first
      == set >>> run.first &&& run.steps

variable {run : Run} {set target code : Nat}

theorem testBit_image_of_carries (carried : run.carries set target) (mapped : run.Maps code)
    (member : set.testBit code = true)
    : target.testBit (run.image code) = true := by
  simp only [carries, Bool.and_eq_true, decide_eq_true_eq, beq_iff_eq] at carried
  obtain ⟨present, inside⟩ := carried
  have moved : run.image run.first + (code - run.first) = run.image code := by
    have lower := mapped.1
    simp only [image]
    omega
  have there := congrArg (Nat.testBit · (code - run.first)) inside
  simp only [Nat.testBit_and _ (target >>> _), (testBit_from set mapped).1, member, Bool.true_and,
    Nat.testBit_shiftRight, moved] at there
  exact there

/-- The bits of a run are the code points that it maps. -/
theorem maps_of_testBit_steps (ordered : run.first ≤ run.last)
    (member : (run.steps <<< run.first).testBit code = true)
    : run.Maps code := by
  rw [Nat.testBit_shiftLeft, Bool.and_eq_true, decide_eq_true_eq] at member
  obtain ⟨step, reached, steps⟩ := testBit_comb_iff.mp member.2
  have bounded : run.stride * step ≤ run.last - run.first :=
    (Nat.mul_le_mul_left _ reached).trans (Nat.mul_div_le _ _)
  refine ⟨member.1, by omega, ?_⟩
  rw [steps, Nat.mul_mod_right]

end Run

/-- Witness: induction on the runs up to the one that maps the code point. -/
theorem testBit_applyRuns_of_carries {runs : List Run} {set target code : Nat}
    (carried : runs.all (Run.carries set target)) (member : set.testBit code = true)
    (unmapped : (∀ run ∈ runs, ¬ run.Maps code) → target.testBit code = true)
    : target.testBit (applyRuns runs code) = true := by
  induction runs with
  | nil => exact unmapped (by simp)
  | cons run rest ih =>
      rw [List.all_cons, Bool.and_eq_true] at carried
      simp only [applyRuns]
      split_ifs with mapped
      · exact Run.testBit_image_of_carries carried.1 mapped member
      · refine ih carried.2 fun none => unmapped fun other listed => ?_
        rcases List.mem_cons.mp listed with rfl | later
        · exact mapped
        · exact none other later

/-- A code point in the sources of runs is mapped by one of them. -/
theorem maps_of_testBit_sources {runs : List Run} {code : Nat}
    (ordered : runs.all fun run => run.first ≤ run.last)
    (member : (sources runs).testBit code = true)
    : ∃ run ∈ runs, run.Maps code := by
  induction runs with
  | nil => simp [sources] at member
  | cons run rest ih =>
      rw [List.all_cons, Bool.and_eq_true, decide_eq_true_eq] at ordered
      rw [sources, Nat.testBit_or, Bool.or_eq_true] at member
      rcases member with later | here
      · obtain ⟨other, listed, mapped⟩ := ih ordered.2 later
        exact ⟨other, by simp [listed], mapped⟩
      · exact ⟨run, by simp, Run.maps_of_testBit_steps ordered.1 here⟩

-----------------------------------------------------------------------------------------
-- Letters that neither decompose nor have a small form
-----------------------------------------------------------------------------------------

/-- The code points that decompose. An entry counts only in the block that its table is for. -/
def composed : Nat :=
  bits [(0xac00, 0xd7a3)]
    ||| keys latinDecompositions &&& bits [(0, 0x8ff)]
    ||| keys brahmicDecompositions &&& bits [(0x900, 0x1eff)]
    ||| keys symbolDecompositions &&& bits [(0x1f00, 0xf8ff)]
    ||| keys ideographDecompositions &&& bits [(0xf900, 0x2f7ff)]
    ||| keys supplementDecompositions &&& bits [(0x2f800, 0x10ffff)]

/-- The entries of all blocks. -/
def decompositions : List (Nat × List Nat) :=
  latinDecompositions ++ brahmicDecompositions ++ symbolDecompositions ++ ideographDecompositions
    ++ supplementDecompositions

/-- The letters that Hangul syllables consist of. -/
def jamo : List Range :=
  [(0x1100, 0x1112), (0x1161, 0x1175), (0x11a8, 0x11c2)]

/-- The code points of characters that neither decompose nor are marks. -/
def simple : Nat :=
  without (without characters composed) (bits markRanges)

/-- The simple code points that have no small form of their own. -/
def small : Nat :=
  without simple (sources lowerRuns)

/-- What has been looked up in the tables of decompositions, of marks and of small letters, for all entries at
once.
-/
class LettersSettle : Prop where
  lowerOrdered : lowerRuns.all fun run => run.first ≤ run.last
  lowerCarries : lowerRuns.all (Run.carries simple small)
  lowerAvoids : lowerRuns.all (Run.avoids small)
  dotDecomposes : simple.testBit 0x130 = false
  jamoSimple : simple &&& bits jamo = bits jamo
  pieces
    : decompositions.all fun (_, codes) =>
        (codes.map Char.ofNat).all fun c => simple.testBit c.toNat || (bits markRanges).testBit c.toNat
  plain
    : spelledOut.all fun (_, text) =>
        text.toList.all fun c => small.testBit c.toNat && spellOut c == [c]

-- An instance, so that the tables are looked through once, before the theorems that rest on them.
/-- Witness: one look at every entry, where the sets are numbers and their bits the members. -/
private instance lettersSettle : LettersSettle := by
  constructor <;> decide +kernel

/-- The composed code points are those that a decomposition takes apart. -/
theorem testBit_composed (c : Char)
    : composed.testBit c.toNat
      = (decide (0xac00 ≤ c.toNat ∧ c.toNat ≤ 0xd7a3)
        || ((decompositionsFor c.toNat).lookup c.toNat).isSome) := by
  have valid : c.toNat.isValidChar := c.valid
  simp only [Nat.isValidChar] at valid
  simp (disch := decide) only [composed, Nat.testBit_or, Nat.testBit_and, testBit_keys,
    testBit_bits_singleton, decompositionsFor]
  -- Each block is the set of one table and of no other.
  split_ifs <;> grind

/-- A character is simple when it neither decomposes nor is a mark. -/
theorem testBit_simple (c : Char)
    : simple.testBit c.toNat = (!composed.testBit c.toNat && !isMark c) := by
  have present : characters.testBit c.toNat = true := testBit_characters.mpr c.valid
  rw [simple, testBit_without, testBit_without, present, Bool.true_and, isMark, isIn,
    within_eq_testBit TablesAgree.marksAscend]

theorem isValidChar_of_simple {code : Nat} (single : simple.testBit code = true) : code.isValidChar := by
  simp only [simple, testBit_without, Bool.and_eq_true] at single
  exact testBit_characters.mp single.1.1

theorem decompose_of_not_composed {c : Char} (single : composed.testBit c.toNat = false)
    : decompose c = [c] := by
  rw [testBit_composed, Bool.or_eq_false_iff, decide_eq_false_iff_not, Option.isSome_eq_false_iff,
    Option.isNone_iff_eq_none] at single
  simp only [decompose, if_neg single.1, single.2]

/-- A syllable is taken apart into a consonant, a vowel and maybe another consonant. -/
theorem testBit_jamo {syllable code : Nat} (isSyllable : 0xac00 ≤ syllable ∧ syllable ≤ 0xd7a3)
    (member : code ∈ decomposeSyllable syllable)
    : (bits jamo).testBit code = true := by
  have parts
      : (0x1100 ≤ code ∧ code ≤ 0x1112) ∨ (0x1161 ≤ code ∧ code ≤ 0x1175)
        ∨ (0x11a8 ≤ code ∧ code ≤ 0x11c2) := by
    simp only [decomposeSyllable] at member
    split_ifs at member <;> simp at member <;> omega
  rw [← within_eq_testBit (show ascends 0 jamo by decide)]
  simp only [jamo, within]
  split_ifs <;> first | rfl | omega

theorem mem_decompositions {code : Nat} {entry : Nat × List Nat} (member : entry ∈ decompositionsFor code)
    : entry ∈ decompositions := by
  simp only [decompositionsFor] at member
  split_ifs at member <;> simp [decompositions, member]

/-- What a character decomposes to are letters that do not decompose further, and marks. -/
theorem simple_or_mark {c piece : Char} (member : piece ∈ decompose c)
    : simple.testBit piece.toNat = true ∨ isMark piece = true := by
  simp only [decompose] at member
  split_ifs at member with syllable
  · obtain ⟨code, part, rfl⟩ := List.mem_map.mp member
    have letter := testBit_jamo syllable part
    have single := (Nat.testBit_and simple (bits jamo) code).symm.trans
      (congrArg (Nat.testBit · code) LettersSettle.jamoSimple)
    rw [letter, Bool.and_true] at single
    left
    rwa [Char.ofNat, dif_pos (isValidChar_of_simple single)]
  · cases found : (decompositionsFor c.toNat).lookup c.toNat with
    | some codes =>
        rw [found] at member
        have listed := mem_decompositions (mem_of_lookup found)
        have checked := List.all_eq_true.mp LettersSettle.pieces _ listed
        rw [isMark, isIn, within_eq_testBit TablesAgree.marksAscend]
        exact Bool.or_eq_true_iff.mp (List.all_eq_true.mp checked piece member)
    | none =>
        rw [found, List.mem_singleton] at member
        rw [member, testBit_simple, testBit_composed, found]
        cases isMark c <;> simp
        omega

theorem lower_of_simple {c : Char} (single : simple.testBit c.toNat = true)
    : lower c = [Char.ofNat (applyRuns lowerRuns c.toNat)] := by
  rw [lower, if_neg]
  intro dotted
  rw [dotted, LettersSettle.dotDecomposes] at single
  exact Bool.false_ne_true single

/-- A simple letter has one small form, which has no other small form. -/
theorem small_of_mem_lower {c letter : Char} (single : simple.testBit c.toNat = true)
    (member : letter ∈ lower c)
    : small.testBit letter.toNat = true := by
  rw [lower_of_simple single, List.mem_singleton] at member
  rw [member, toNat_applyRuns TablesAgree.lowerValid]
  refine testBit_applyRuns_of_carries LettersSettle.lowerCarries single fun unmapped => ?_
  rw [small, testBit_without, single, Bool.true_and, Bool.not_eq_true', Bool.eq_false_iff]
  intro mapped
  obtain ⟨run, listed, maps⟩ := maps_of_testBit_sources LettersSettle.lowerOrdered mapped
  exact unmapped run listed maps

theorem simple_of_small {code : Nat} (settled : small.testBit code = true)
    : simple.testBit code = true := by
  rw [small, testBit_without, Bool.and_eq_true] at settled
  exact settled.1

theorem lower_of_small {c : Char} (settled : small.testBit c.toNat = true) : lower c = [c] := by
  rw [lower_of_simple (simple_of_small settled),
    applyRuns_eq_self (List.all_eq_true.mp LettersSettle.lowerAvoids) settled, Char.ofNat_toNat]

-----------------------------------------------------------------------------------------
-- Folding twice
-----------------------------------------------------------------------------------------

/-- A simple letter folds to the plain spelling of its small form. -/
theorem foldChar_of_simple {c : Char} (single : simple.testBit c.toNat = true)
    : foldChar c = (lower c).flatMap spellOut := by
  rw [testBit_simple, Bool.and_eq_true, Bool.not_eq_true', Bool.not_eq_true'] at single
  simp [foldChar, decompose_of_not_composed single.1, single.2]

theorem foldChar_of_small {c : Char} (settled : small.testBit c.toNat = true)
    : foldChar c = spellOut c := by
  rw [foldChar_of_simple (simple_of_small settled), lower_of_small settled, List.flatMap_singleton]

/-- Witness: the plain spellings are looked through one by one. -/
theorem foldChars_spellOut {c : Char} (settled : small.testBit c.toNat = true)
    : foldChars (spellOut c) = spellOut c := by
  cases found : spelledOut.lookup c with
  | none =>
      have plain : spellOut c = [c] := by rw [spellOut, found]
      rw [plain, foldChars, List.flatMap_singleton, foldChar_of_small settled, plain]
  | some text =>
      have checked := List.all_eq_true.mp LettersSettle.plain _ (mem_of_lookup found)
      have same : ∀ letter ∈ text.toList, foldChar letter = [letter] := by
        intro letter member
        have checked := List.all_eq_true.mp checked letter member
        rw [Bool.and_eq_true, beq_iff_eq] at checked
        rw [foldChar_of_small checked.1, checked.2]
      rw [spellOut, found, foldChars, List.flatMap_congr same, List.flatMap_singleton']

/-- A character folds to small letters in their plain spelling. -/
theorem foldChar_eq_flatMap (c : Char)
    : ∃ letters : List Char, (∀ letter ∈ letters, small.testBit letter.toNat = true)
      ∧ foldChar c = letters.flatMap spellOut := by
  refine ⟨((decompose c).filter (fun c => !isMark c)).flatMap lower, fun letter member => ?_, rfl⟩
  obtain ⟨piece, kept, lowered⟩ := List.mem_flatMap.mp member
  obtain ⟨part, unmarked⟩ := List.mem_filter.mp kept
  rcases simple_or_mark part with single | marked
  · exact small_of_mem_lower single lowered
  · simp [marked] at unmarked

/-- What is left after folding folds to itself. -/
theorem foldChars_foldChars (chars : List Char) : foldChars (foldChars chars) = foldChars chars := by
  simp only [foldChars, List.flatMap_assoc]
  refine List.flatMap_congr fun c _ => ?_
  obtain ⟨letters, settled, folded⟩ := foldChar_eq_flatMap c
  rw [folded, List.flatMap_assoc]
  exact List.flatMap_congr fun letter member => foldChars_spellOut (settled letter member)

-----------------------------------------------------------------------------------------
-- Texts within texts
-----------------------------------------------------------------------------------------

theorem isWithin_iff_infix {needle hay : List Char} : isWithin needle hay = true ↔ needle <:+: hay := by
  induction hay with
  | nil => simp [isWithin]
  | cons c rest ih => rw [isWithin, Bool.or_eq_true, List.isPrefixOf_iff_prefix, ih, List.infix_cons_iff]

theorem contains_test_iff {needle hay : String}
    : (Comparison.contains needle).test (some (.string hay)) = true
      ↔ foldChars needle.toList <:+: foldChars hay.toList :=
  isWithin_iff_infix

/-- The laws of the folding of texts, and of what is found in a text. -/
structure Folds (fold : String → String) : Prop where
  /-- A text can be folded in parts, wherever it is split. -/
  append (before after : String) : fold (before ++ after) = fold before ++ fold after
  /-- A folded text has nothing left to fold. -/
  settles (text : String) : fold (fold text) = fold text
  /-- A text contains another one when its folding has that of the other one somewhere. -/
  contains_iff (needle hay : String)
    : (Comparison.contains needle).test (some (.string hay)) = true
      ↔ (fold needle).toList <:+: (fold hay).toList
  /-- Each part of a text is found in it. -/
  finds (before needle after : String)
    : (Comparison.contains needle).test (some (.string (before ++ needle ++ after))) = true
  /-- What is found in a text is found in every longer one. -/
  lasts (before after : String) {needle hay : String}
    (found : (Comparison.contains needle).test (some (.string hay)) = true)
    : (Comparison.contains needle).test (some (.string (before ++ hay ++ after))) = true
  /-- What is found in a text depends on its folding only. -/
  same {hay other : String} (folded : fold hay = fold other) (needle : String)
    : (Comparison.contains needle).test (some (.string hay))
      = (Comparison.contains needle).test (some (.string other))

/-- Folding keeps concatenation and settles what it is given, and what is looked for in a text is found wherever
it stands, whichever marks have ranks by which a decomposition is put in order.
Witness: only marks change places, and marks are dropped; what is left are small letters that neither decompose
nor are spelled out any further.
-/
theorem contains_folds {rank : Char → Nat} (marks : ∀ c, rank c ≠ 0 → isMark c = true)
    : Folds (fold rank) := by
  have append (before after : String) : fold rank (before ++ after) = fold rank before ++ fold rank after := by
    rw [← String.toList_inj]
    simp only [toList_fold marks, String.toList_append, foldChars, List.flatMap_append]
  have contains_iff (needle hay : String)
      : (Comparison.contains needle).test (some (.string hay)) = true
        ↔ (fold rank needle).toList <:+: (fold rank hay).toList := by
    rw [toList_fold marks, toList_fold marks, contains_test_iff]
  have lasts (before after : String) {needle hay : String}
      (found : (fold rank needle).toList <:+: (fold rank hay).toList)
      : (fold rank needle).toList <:+: (fold rank (before ++ hay ++ after)).toList := by
    rw [append, append, String.toList_append, String.toList_append]
    exact found.trans (List.infix_append _ _ _)
  exact {
    append
    settles := fun text => by
      rw [← String.toList_inj, toList_fold marks, toList_fold marks, foldChars_foldChars]
    contains_iff
    finds := fun before needle after => (contains_iff _ _).mpr (lasts before after (List.infix_refl _))
    lasts := fun before after _ _ found =>
      (contains_iff _ _).mpr (lasts before after ((contains_iff _ _).mp found))
    same := fun folded needle => by
      rw [Bool.eq_iff_iff, contains_iff, contains_iff, folded]
  }

/-- The ranks of the acute accent and of the cedilla. -/
def accentRank (c : Char) : Nat :=
  if c.toNat = 0x301 then 230 else if c.toNat = 0x327 then 202 else 0

/-- A cedilla behind an accent passes it, and a text is still split between them. -/
theorem accents_fold
    : (∀ c, accentRank c ≠ 0 → isMark c = true)
      ∧ arrange accentRank ['c', Char.ofNat 0x301, Char.ofNat 0x327]
        = ['c', Char.ofNat 0x327, Char.ofNat 0x301]
      ∧ Folds (fold accentRank) := by
  have marks (c : Char) (ranked : accentRank c ≠ 0) : isMark c = true := by
    simp only [accentRank] at ranked
    split_ifs at ranked with acute cedilla
    · rw [isMark, isIn, acute]
      decide
    · rw [isMark, isIn, cedilla]
      decide
    · exact absurd rfl ranked
  exact ⟨marks, by decide, contains_folds marks⟩

end EntityStore.Text
