import EntityStore.Proofs.Text.Fold

/-! Texts that differ in case only.
The folding of a text puts its letters in lower case one by one. Where several small letters have the same
capital this is not the case folding of Unicode, which sends all of them to one letter. The characters for
which the two differ are listed here, and texts without them are found in each other whatever their case.
-/

namespace EntityStore.Text

-----------------------------------------------------------------------------------------
-- Case folding
-----------------------------------------------------------------------------------------

/-- The characters that do not fold to their small letter: small letters that share their capital with others,
and letters whose capital has several characters.
-/
def caseFoldings : List (Nat × List Nat) :=
  [
    (0xb5, [0x3bc]), (0xdf, [0x73, 0x73]), (0x149, [0x2bc, 0x6e]), (0x17f, [0x73]),
    (0x1f0, [0x6a, 0x30c]), (0x345, [0x3b9]), (0x390, [0x3b9, 0x308, 0x301]),
    (0x3b0, [0x3c5, 0x308, 0x301]), (0x3c2, [0x3c3]), (0x3d0, [0x3b2]), (0x3d1, [0x3b8]),
    (0x3d5, [0x3c6]), (0x3d6, [0x3c0]), (0x3f0, [0x3ba]), (0x3f1, [0x3c1]), (0x3f5, [0x3b5]),
    (0x587, [0x565, 0x582]), (0x1c80, [0x432]), (0x1c81, [0x434]), (0x1c82, [0x43e]),
    (0x1c83, [0x441]), (0x1c84, [0x442]), (0x1c85, [0x442]), (0x1c86, [0x44a]), (0x1c87, [0x463]),
    (0x1c88, [0xa64b]), (0x1e96, [0x68, 0x331]), (0x1e97, [0x74, 0x308]), (0x1e98, [0x77, 0x30a]),
    (0x1e99, [0x79, 0x30a]), (0x1e9a, [0x61, 0x2be]), (0x1e9b, [0x1e61]), (0x1e9e, [0x73, 0x73]),
    (0x1f50, [0x3c5, 0x313]), (0x1f52, [0x3c5, 0x313, 0x300]), (0x1f54, [0x3c5, 0x313, 0x301]),
    (0x1f56, [0x3c5, 0x313, 0x342]), (0x1f80, [0x1f00, 0x3b9]), (0x1f81, [0x1f01, 0x3b9]),
    (0x1f82, [0x1f02, 0x3b9]), (0x1f83, [0x1f03, 0x3b9]), (0x1f84, [0x1f04, 0x3b9]),
    (0x1f85, [0x1f05, 0x3b9]), (0x1f86, [0x1f06, 0x3b9]), (0x1f87, [0x1f07, 0x3b9]),
    (0x1f88, [0x1f00, 0x3b9]), (0x1f89, [0x1f01, 0x3b9]), (0x1f8a, [0x1f02, 0x3b9]),
    (0x1f8b, [0x1f03, 0x3b9]), (0x1f8c, [0x1f04, 0x3b9]), (0x1f8d, [0x1f05, 0x3b9]),
    (0x1f8e, [0x1f06, 0x3b9]), (0x1f8f, [0x1f07, 0x3b9]), (0x1f90, [0x1f20, 0x3b9]),
    (0x1f91, [0x1f21, 0x3b9]), (0x1f92, [0x1f22, 0x3b9]), (0x1f93, [0x1f23, 0x3b9]),
    (0x1f94, [0x1f24, 0x3b9]), (0x1f95, [0x1f25, 0x3b9]), (0x1f96, [0x1f26, 0x3b9]),
    (0x1f97, [0x1f27, 0x3b9]), (0x1f98, [0x1f20, 0x3b9]), (0x1f99, [0x1f21, 0x3b9]),
    (0x1f9a, [0x1f22, 0x3b9]), (0x1f9b, [0x1f23, 0x3b9]), (0x1f9c, [0x1f24, 0x3b9]),
    (0x1f9d, [0x1f25, 0x3b9]), (0x1f9e, [0x1f26, 0x3b9]), (0x1f9f, [0x1f27, 0x3b9]),
    (0x1fa0, [0x1f60, 0x3b9]), (0x1fa1, [0x1f61, 0x3b9]), (0x1fa2, [0x1f62, 0x3b9]),
    (0x1fa3, [0x1f63, 0x3b9]), (0x1fa4, [0x1f64, 0x3b9]), (0x1fa5, [0x1f65, 0x3b9]),
    (0x1fa6, [0x1f66, 0x3b9]), (0x1fa7, [0x1f67, 0x3b9]), (0x1fa8, [0x1f60, 0x3b9]),
    (0x1fa9, [0x1f61, 0x3b9]), (0x1faa, [0x1f62, 0x3b9]), (0x1fab, [0x1f63, 0x3b9]),
    (0x1fac, [0x1f64, 0x3b9]), (0x1fad, [0x1f65, 0x3b9]), (0x1fae, [0x1f66, 0x3b9]),
    (0x1faf, [0x1f67, 0x3b9]), (0x1fb2, [0x1f70, 0x3b9]), (0x1fb3, [0x3b1, 0x3b9]),
    (0x1fb4, [0x3ac, 0x3b9]), (0x1fb6, [0x3b1, 0x342]), (0x1fb7, [0x3b1, 0x342, 0x3b9]),
    (0x1fbc, [0x3b1, 0x3b9]), (0x1fbe, [0x3b9]), (0x1fc2, [0x1f74, 0x3b9]),
    (0x1fc3, [0x3b7, 0x3b9]), (0x1fc4, [0x3ae, 0x3b9]), (0x1fc6, [0x3b7, 0x342]),
    (0x1fc7, [0x3b7, 0x342, 0x3b9]), (0x1fcc, [0x3b7, 0x3b9]), (0x1fd2, [0x3b9, 0x308, 0x300]),
    (0x1fd3, [0x3b9, 0x308, 0x301]), (0x1fd6, [0x3b9, 0x342]), (0x1fd7, [0x3b9, 0x308, 0x342]),
    (0x1fe2, [0x3c5, 0x308, 0x300]), (0x1fe3, [0x3c5, 0x308, 0x301]), (0x1fe4, [0x3c1, 0x313]),
    (0x1fe6, [0x3c5, 0x342]), (0x1fe7, [0x3c5, 0x308, 0x342]), (0x1ff2, [0x1f7c, 0x3b9]),
    (0x1ff3, [0x3c9, 0x3b9]), (0x1ff4, [0x3ce, 0x3b9]), (0x1ff6, [0x3c9, 0x342]),
    (0x1ff7, [0x3c9, 0x342, 0x3b9]), (0x1ffc, [0x3c9, 0x3b9]), (0xfb00, [0x66, 0x66]),
    (0xfb01, [0x66, 0x69]), (0xfb02, [0x66, 0x6c]), (0xfb03, [0x66, 0x66, 0x69]),
    (0xfb04, [0x66, 0x66, 0x6c]), (0xfb05, [0x73, 0x74]), (0xfb06, [0x73, 0x74]),
    (0xfb13, [0x574, 0x576]), (0xfb14, [0x574, 0x565]), (0xfb15, [0x574, 0x56b]),
    (0xfb16, [0x57e, 0x576]), (0xfb17, [0x574, 0x56d])
  ]

/-- The Cherokee letters, which fold to their capitals. -/
def cherokeeRanges : List Range :=
  [(0x13a0, 0x13f5), (0x13f8, 0x13fd), (0xab70, 0xabbf)]

/-- The small Cherokee letters. -/
def cherokeeRuns : List Run :=
  [⟨0x13f8, 0x13fd, 1, -8⟩, ⟨0xab70, 0xabbf, 1, -38864⟩]

/-- The full default case folding of a character. -/
def caseFold (c : Char) : List Char :=
  match caseFoldings.lookup c.toNat with
  | some codes => codes.map Char.ofNat
  | none =>
      if isIn cherokeeRanges c then [Char.ofNat (applyRuns cherokeeRuns c.toNat)] else lower c

/-- The case folding of a text. Two texts differ in case only when theirs is the same. -/
def foldCase (text : String) : List Char :=
  text.toList.flatMap caseFold

/-- The characters that do not fold to what their case folding folds to. -/
def missedRanges : List Range :=
  [
    (0xb5, 0xb5), (0x149, 0x149), (0x17f, 0x17f), (0x345, 0x345), (0x3c2, 0x3c2), (0x3d0, 0x3d1),
    (0x3d5, 0x3d6), (0x3f0, 0x3f1), (0x3f5, 0x3f5), (0x587, 0x587), (0x1c80, 0x1c88),
    (0x1e9a, 0x1e9b), (0x1f80, 0x1faf), (0x1fb2, 0x1fb4), (0x1fb7, 0x1fb7), (0x1fbc, 0x1fbc),
    (0x1fc2, 0x1fc4), (0x1fc7, 0x1fc7), (0x1fcc, 0x1fcc), (0x1ff2, 0x1ff4), (0x1ff7, 0x1ff7),
    (0x1ffc, 0x1ffc), (0xfb00, 0xfb06), (0xfb13, 0xfb17)
  ]

/-- The code points that a run maps, one by one. -/
def Run.codes (run : Run) : List Nat :=
  List.range' run.first ((run.last - run.first) / run.stride + 1) run.stride

-----------------------------------------------------------------------------------------
-- The tables
-----------------------------------------------------------------------------------------

/-- The decomposition of a code point, looked up in its table from the entry of another one on. -/
def piecesFrom (start code : Nat) : List Nat :=
  if !composed.testBit code then [code]
  else if 0xac00 ≤ code ∧ code ≤ 0xd7a3 then decomposeSyllable code
  else (((decompositionsFor code).dropWhile fun (key, _) => key.blt start).lookup code).getD [code]

/-- The small letters that are left of a decomposition. -/
def letters (pieces : List Char) : List Char :=
  pieces.flatMap fun piece =>
    if small.testBit piece.toNat then [piece]
    else if (bits markRanges).testBit piece.toNat then []
    else lower piece

/-- The code points of characters that are their own case folding. -/
def caseless : Nat :=
  without characters
    (sources lowerRuns ||| bits [(0x130, 0x130)] ||| keys caseFoldings ||| bits cherokeeRanges)

/-- What has been looked up in the tables of case and of decompositions, for all entries at once. -/
class CaseSettles : Prop where
  exceptionsCaseless
    : caseFoldings.all fun (_, codes) => codes.all (caseless.testBit ·)
  exceptionsDecided
    : caseFoldings.all fun (code, codes) =>
        ((letters ((codes.flatMap fun code => piecesFrom code code).map Char.ofNat)).flatMap spellOut
          == (letters ((piecesFrom code code).map Char.ofNat)).flatMap spellOut)
        == !within missedRanges code
  lowerAvoids : lowerRuns.all (Run.avoids caseless)
  missedAscend : ascends 0 missedRanges
  missedListed : bits missedRanges &&& keys caseFoldings = bits missedRanges
  cherokeeAscend : ascends 0 cherokeeRanges
  cherokeeSimple : bits cherokeeRanges &&& simple = bits cherokeeRanges
  dotLowered : foldChars (lower (Char.ofNat 0x130)) = foldChar (Char.ofNat 0x130)
  /-- Both decompositions are looked up from the first of them on. -/
  composedLowered
    : lowerRuns.all fun run =>
        run.codes.all fun code =>
          let start := min run.first (run.image run.first)
          !composed.testBit code
            || letters ((piecesFrom start code).map Char.ofNat)
              == letters ((piecesFrom start (run.image code)).map Char.ofNat)

-- An instance, so that the tables are looked through once, before the theorems that rest on them.
/-- Witness: one look at every entry, where the sets are numbers and their bits the members. -/
private instance caseSettles : CaseSettles := by
  constructor <;> decide +kernel

theorem lookup_dropWhile {entries : List (Nat × List Nat)} {start code : Nat} (started : start ≤ code)
    : (entries.dropWhile fun (key, _) => key.blt start).lookup code = entries.lookup code := by
  induction entries with
  | nil => rfl
  | cons entry rest ih =>
      simp only [List.dropWhile_cons]
      split
      next earlier =>
        have other : (code == entry.1) = false := beq_false_of_ne (by
          have := Nat.blt_eq.mp earlier
          omega)
        rw [ih, List.lookup_cons, other]
      next => rfl

theorem decompose_eq_piecesFrom {start : Nat} {c : Char} (started : start ≤ c.toNat)
    : decompose c = (piecesFrom start c.toNat).map Char.ofNat := by
  cases single : composed.testBit c.toNat with
  | false => simp [piecesFrom, single, decompose_of_not_composed single]
  | true =>
      rw [piecesFrom, single, decompose, lookup_dropWhile started]
      simp only [Bool.not_true, Bool.false_eq_true, if_false]
      split_ifs
      · rfl
      · cases (decompositionsFor c.toNat).lookup c.toNat <;> simp

theorem letters_eq_flatMap (pieces : List Char)
    : letters pieces = (pieces.filter (fun c => !isMark c)).flatMap lower := by
  induction pieces with
  | nil => rfl
  | cons piece rest ih =>
      have marked : (bits markRanges).testBit piece.toNat = isMark piece := by
        rw [isMark, isIn, within_eq_testBit TablesAgree.marksAscend]
      rw [letters, List.flatMap_cons, ← letters, ih, List.filter_cons, marked]
      cases settled : small.testBit piece.toNat with
      | true =>
          have single := simple_of_small settled
          rw [testBit_simple, Bool.and_eq_true] at single
          simp [single.2, lower_of_small settled]
      | false => cases isMark piece <;> simp

theorem foldChars_eq_letters (chars : List Char)
    : foldChars chars = (letters (chars.flatMap decompose)).flatMap spellOut := by
  simp only [letters_eq_flatMap, List.filter_flatMap, List.flatMap_assoc, foldChars, funext foldChar.eq_1]

theorem foldChar_eq_letters (c : Char) : foldChar c = (letters (decompose c)).flatMap spellOut := by
  simpa [foldChars] using foldChars_eq_letters [c]

-----------------------------------------------------------------------------------------
-- Small letters
-----------------------------------------------------------------------------------------

/-- A code point that runs map is mapped by one of them. -/
theorem applyRuns_cases (runs : List Run) (code : Nat)
    : applyRuns runs code = code
      ∨ ∃ run ∈ runs, run.Maps code ∧ applyRuns runs code = run.image code := by
  induction runs with
  | nil => exact .inl rfl
  | cons run rest ih =>
      simp only [applyRuns]
      split_ifs with mapped
      · exact .inr ⟨run, by simp, mapped, rfl⟩
      · rcases ih with same | ⟨other, listed, maps, image⟩
        · exact .inl same
        · exact .inr ⟨other, by simp [listed], maps, image⟩

theorem Run.mem_codes {run : Run} {code : Nat} (mapped : run.Maps code) : code ∈ run.codes := by
  obtain ⟨lower, upper, onStep⟩ := mapped
  have parts := Nat.div_add_mod (code - run.first) run.stride
  have bounded : (code - run.first) / run.stride ≤ (run.last - run.first) / run.stride :=
    Nat.div_le_div_right (by omega)
  exact List.mem_range'.mpr ⟨(code - run.first) / run.stride, by omega, by omega⟩

/-- A letter that decomposes folds to what its small letter folds to. -/
theorem foldChar_of_image {c letter : Char} {run : Run} (listed : run ∈ lowerRuns) (mapped : run.Maps c.toNat)
    (decomposes : composed.testBit c.toNat = true) (image : letter.toNat = run.image c.toNat)
    : foldChar letter = foldChar c := by
  have checked := List.all_eq_true.mp (List.all_eq_true.mp CaseSettles.composedLowered run listed)
    c.toNat (Run.mem_codes mapped)
  simp only [decomposes, Bool.not_true, Bool.false_or, beq_iff_eq] at checked
  have above := mapped.1
  have ordered : run.image run.first ≤ run.image c.toNat := by
    simp only [Run.image]
    omega
  have started : min run.first (run.image run.first) ≤ c.toNat := by omega
  have startedImage : min run.first (run.image run.first) ≤ letter.toNat := by omega
  rw [foldChar_eq_letters, foldChar_eq_letters, decompose_eq_piecesFrom startedImage,
    decompose_eq_piecesFrom started, image, checked]

/-- A character folds to what its small letters fold to.
Witness: simple letters by their small form, composed ones by the run that maps them.
-/
theorem foldChars_lower (c : Char) : foldChars (lower c) = foldChar c := by
  by_cases dotted : c.toNat = 0x130
  · obtain rfl : c = Char.ofNat 0x130 := Char.toNat_inj.mp dotted
    exact CaseSettles.dotLowered
  cases single : simple.testBit c.toNat with
  | true =>
      rw [foldChar_of_simple single, foldChars]
      exact List.flatMap_congr fun letter member => foldChar_of_small (small_of_mem_lower single member)
  | false =>
      cases marked : isMark c with
      | true => rw [lower_of_mark (.inr marked), foldChars, List.flatMap_singleton]
      | false =>
          have decomposes : composed.testBit c.toNat = true := by
            simpa [testBit_simple, marked] using single
          rw [lower, if_neg dotted, foldChars, List.flatMap_singleton]
          rcases applyRuns_cases lowerRuns c.toNat with same | ⟨run, listed, mapped, moved⟩
          · rw [same, Char.ofNat_toNat]
          · exact foldChar_of_image listed mapped decomposes
              ((toNat_applyRuns TablesAgree.lowerValid c).trans moved)

-----------------------------------------------------------------------------------------
-- Case folding of characters
-----------------------------------------------------------------------------------------

theorem caseFold_of_some {c : Char} {codes : List Nat} (found : caseFoldings.lookup c.toNat = some codes)
    : caseFold c = codes.map Char.ofNat := by
  rw [caseFold, found]

theorem caseFold_of_caseless {c : Char} (settled : caseless.testBit c.toNat = true) : caseFold c = [c] := by
  have same := applyRuns_eq_self (List.all_eq_true.mp CaseSettles.lowerAvoids) settled
  simp only [caseless, testBit_without, Nat.testBit_or, Bool.and_eq_true, Bool.not_eq_true',
    Bool.or_eq_false_iff, testBit_keys] at settled
  obtain ⟨-, ⟨⟨-, undotted⟩, unlisted⟩, other⟩ := settled
  rw [testBit_bits_singleton (Nat.le_refl _), decide_eq_false_iff_not] at undotted
  rw [Option.isSome_eq_false_iff, Option.isNone_iff_eq_none] at unlisted
  rw [caseFold, unlisted, isIn, within_eq_testBit CaseSettles.cherokeeAscend, other]
  simp only [Bool.false_eq_true, if_false]
  rw [lower, if_neg (by omega), same, Char.ofNat_toNat]

theorem caseless_of_mem {code piece : Nat} {codes : List Nat}
    (found : caseFoldings.lookup code = some codes) (member : piece ∈ codes)
    : caseless.testBit piece = true :=
  List.all_eq_true.mp (List.all_eq_true.mp CaseSettles.exceptionsCaseless _ (mem_of_lookup found))
    piece member

theorem toNat_ofNat_of_caseless {code : Nat} (settled : caseless.testBit code = true)
    : (Char.ofNat code).toNat = code := by
  simp only [caseless, testBit_without, Bool.and_eq_true] at settled
  rw [Char.ofNat, dif_pos (testBit_characters.mp settled.1)]
  rfl

/-- The case folding of an exception is its own case folding. -/
theorem flatMap_caseFold_of_some {c : Char} {codes : List Nat}
    (found : caseFoldings.lookup c.toNat = some codes)
    : (caseFold c).flatMap caseFold = caseFold c := by
  rw [caseFold_of_some found]
  have same : ∀ piece ∈ codes.map Char.ofNat, caseFold piece = [piece] := by
    intro piece member
    obtain ⟨code, part, rfl⟩ := List.mem_map.mp member
    have settled := caseless_of_mem found part
    exact caseFold_of_caseless (by rwa [toNat_ofNat_of_caseless settled])
  rw [List.flatMap_congr same, List.flatMap_singleton']

/-- Witness: the exceptions are looked through one by one. -/
theorem foldChars_caseFold_of_some {c : Char} {codes : List Nat}
    (found : caseFoldings.lookup c.toNat = some codes)
    : foldChars (caseFold c) = foldChar c ↔ isIn missedRanges c = false := by
  have checked := List.all_eq_true.mp CaseSettles.exceptionsDecided _ (mem_of_lookup found)
  have decomposed
      : (codes.map Char.ofNat).flatMap decompose
        = (codes.flatMap fun code => piecesFrom code code).map Char.ofNat := by
    rw [List.flatMap_map, List.map_flatMap]
    refine List.flatMap_congr fun code part => ?_
    have valid := toNat_ofNat_of_caseless (caseless_of_mem found part)
    rw [decompose_eq_piecesFrom (show code ≤ _ by rw [valid]), valid]
  rw [caseFold_of_some found, foldChars_eq_letters, foldChar_eq_letters, decomposed,
    decompose_eq_piecesFrom (Nat.le_refl c.toNat), isIn]
  rw [beq_iff_eq] at checked
  rw [← beq_iff_eq, checked, Bool.not_eq_true']

theorem lookup_of_missed {c : Char} (missed : isIn missedRanges c = true)
    : ∃ codes, caseFoldings.lookup c.toNat = some codes := by
  rw [isIn, within_eq_testBit CaseSettles.missedAscend, ← CaseSettles.missedListed, Nat.testBit_and,
    Bool.and_eq_true, testBit_keys, Option.isSome_iff_exists] at missed
  exact missed.2

/-- The runs that lie apart from a code point do not matter for it. -/
theorem applyRuns_filter (runs : List Run) {first last code : Nat} (inside : first ≤ code ∧ code ≤ last)
    : applyRuns (runs.filter fun run => run.first ≤ last ∧ first ≤ run.last) code
      = applyRuns runs code := by
  induction runs with
  | nil => rfl
  | cons run rest ih =>
      rw [List.filter_cons]
      split_ifs with near
      · simp only [applyRuns, ih]
      · rw [decide_eq_true_eq] at near
        rw [ih, applyRuns, if_neg (by omega)]

theorem lower_cherokee {code : Nat} {c : Char} (capital : 0x13a0 ≤ code ∧ code ≤ 0x13f5)
    (next : c.toNat = if code ≤ 0x13ef then code + 38864 else code + 8)
    : lower (Char.ofNat code) = [c] := by
  have valid : (Char.ofNat code).toNat = code := by
    rw [Char.ofNat, dif_pos (.inl (by omega))]
    rfl
  have runs
      : (lowerRuns.filter fun run => run.first ≤ 0x13f5 ∧ 0x13a0 ≤ run.last)
        = [⟨0x13a0, 0x13ef, 1, 38864⟩, ⟨0x13f0, 0x13f5, 1, 8⟩] := rfl
  have image : applyRuns lowerRuns code = c.toNat := by
    rw [← applyRuns_filter lowerRuns capital, runs, next]
    simp only [applyRuns, Nat.mod_one, and_true]
    split_ifs <;> omega
  rw [lower, valid, if_neg (by omega), image, Char.ofNat_toNat]

/-- A Cherokee letter folds to what its capital folds to. -/
theorem foldChars_cherokee (c : Char)
    : foldChars [Char.ofNat (applyRuns cherokeeRuns c.toNat)] = foldChar c := by
  have capital
      : applyRuns cherokeeRuns c.toNat = c.toNat
        ∨ lower (Char.ofNat (applyRuns cherokeeRuns c.toNat)) = [c] := by
    simp only [cherokeeRuns, applyRuns, Nat.mod_one, and_true]
    split_ifs with middle last
    · exact .inr (lower_cherokee (by omega) (by split_ifs <;> omega))
    · exact .inr (lower_cherokee (by omega) (by split_ifs <;> omega))
    · exact .inl rfl
  rcases capital with same | lowered
  · rw [same, Char.ofNat_toNat, foldChars, List.flatMap_singleton]
  · rw [foldChars, List.flatMap_singleton, ← foldChars_lower, lowered, foldChars, List.flatMap_singleton]

/-- A character folds to what its case folding folds to, if it is not one of those missed. -/
theorem foldChars_caseFold_iff (c : Char)
    : foldChars (caseFold c) = foldChar c ↔ isIn missedRanges c = false := by
  cases found : caseFoldings.lookup c.toNat with
  | some codes => exact foldChars_caseFold_of_some found
  | none =>
      have kept : isIn missedRanges c = false := by
        rw [Bool.eq_false_iff]
        intro missed
        obtain ⟨codes, listed⟩ := lookup_of_missed missed
        rw [found] at listed
        cases listed
      refine iff_of_true ?_ kept
      rw [caseFold, found]
      dsimp only
      split_ifs
      · exact foldChars_cherokee c
      · exact foldChars_lower c

-----------------------------------------------------------------------------------------
-- Texts that differ in case
-----------------------------------------------------------------------------------------

/-- Two texts contain each other exactly if they fold to the same. -/
theorem contain_each_other_iff {hay needle : String}
    : ((Comparison.contains needle).test (some (.string hay)) = true
        ∧ (Comparison.contains hay).test (some (.string needle)) = true)
      ↔ foldChars hay.toList = foldChars needle.toList := by
  rw [contains_test_iff, contains_test_iff]
  refine ⟨fun ⟨inside, around⟩ => ?_, fun same => by simp [same]⟩
  exact around.eq_of_length (Nat.le_antisymm around.length_le inside.length_le)

/-- Texts that differ in capitals and their small letters only contain each other. -/
theorem contain_each_other_of_lower {hay needle : String}
    (same : hay.toList.flatMap lower = needle.toList.flatMap lower)
    : (Comparison.contains needle).test (some (.string hay)) = true
      ∧ (Comparison.contains hay).test (some (.string needle)) = true := by
  have lowered (chars : List Char) : foldChars (chars.flatMap lower) = foldChars chars := by
    rw [foldChars, List.flatMap_assoc]
    exact List.flatMap_congr fun c _ => foldChars_lower c
  rw [contain_each_other_iff, ← lowered, same, lowered]

theorem foldChars_foldCase {text : String} (kept : ∀ c ∈ text.toList, isIn missedRanges c = false)
    : foldChars (foldCase text) = foldChars text.toList := by
  rw [foldCase, foldChars, List.flatMap_assoc, foldChars]
  exact List.flatMap_congr fun c member => (foldChars_caseFold_iff c).mpr (kept c member)

/-- Texts that differ in case only contain each other, for the texts over some characters and their case
foldings, exactly if none of these characters is missed.
-/
theorem caseless_contains_iff {allowed : Char → Prop}
    (closed : ∀ c, allowed c → ∀ folded ∈ caseFold c, allowed folded)
    : (∀ hay needle : String, (∀ c ∈ hay.toList, allowed c) → (∀ c ∈ needle.toList, allowed c) →
        foldCase hay = foldCase needle →
        (Comparison.contains needle).test (some (.string hay)) = true
          ∧ (Comparison.contains hay).test (some (.string needle)) = true)
      ↔ ∀ c, allowed c → isIn missedRanges c = false := by
  constructor
  · intro contained c listed
    rw [Bool.eq_false_iff]
    intro missed
    obtain ⟨codes, found⟩ := lookup_of_missed missed
    have folding : foldCase (String.ofList [c]) = foldCase (String.ofList (caseFold c)) := by
      simp [foldCase, flatMap_caseFold_of_some found]
    have both := contained (String.ofList [c]) (String.ofList (caseFold c))
      (by simpa using listed) (by simpa using closed c listed) folding
    have same := contain_each_other_iff.mp both
    rw [String.toList_ofList, String.toList_ofList, foldChars, List.flatMap_singleton] at same
    rw [(foldChars_caseFold_iff c).mp same.symm] at missed
    exact Bool.false_ne_true missed
  · intro kept hay needle hayAllowed needleAllowed folding
    rw [contain_each_other_iff, ← foldChars_foldCase fun c member => kept c (hayAllowed c member),
      ← foldChars_foldCase fun c member => kept c (needleAllowed c member), folding]

/-- The letters of a street name. -/
def streetLetters : List Char :=
  "STRAßEstraße".toList

/-- Street names are found in small letters, in capitals and with the sharp s written out. -/
theorem street_caseless
    : (∀ c ∈ streetLetters, ∀ folded ∈ caseFold c, folded ∈ streetLetters)
      ∧ foldCase "STRASSE" = foldCase "Straße"
      ∧ (Comparison.contains "Straße").test (some (.string "STRASSE")) = true
      ∧ (Comparison.contains "STRASSE").test (some (.string "Straße")) = true := by
  have closed : ∀ c ∈ streetLetters, ∀ folded ∈ caseFold c, folded ∈ streetLetters := by
    have checked : streetLetters.all fun c => (caseFold c).all streetLetters.contains := by
      decide +kernel
    simpa using checked
  have kept : ∀ c ∈ streetLetters, isIn missedRanges c = false := by
    have checked : streetLetters.all fun c => !isIn missedRanges c := by
      decide +kernel
    simpa using checked
  have spelled (text : String) (checked : text.toList.all streetLetters.contains)
      : ∀ c ∈ text.toList, c ∈ streetLetters := by
    simpa using checked
  have folding : foldCase "STRASSE" = foldCase "Straße" := by
    decide +kernel
  exact ⟨closed, folding, (caseless_contains_iff closed).mpr kept "STRASSE" "Straße"
    (spelled _ (by decide +kernel)) (spelled _ (by decide +kernel)) folding⟩

/-- The small sigmas fold together, but neither is found in the other. -/
theorem sigmas_apart
    : foldCase "σ" = foldCase "ς"
      ∧ (Comparison.contains "ς").test (some (.string "σ")) = false
      ∧ (Comparison.contains "σ").test (some (.string "ς")) = false := by
  decide +kernel

end EntityStore.Text
