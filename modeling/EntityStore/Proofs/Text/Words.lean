import EntityStore.Proofs.Text.Identifier
import EntityStore.Text.Words
import Mathlib.Data.List.Chain

/-! Names in another style.
The words of a name have all of its characters but the separators. So a name in another style goes
on with an identifier exactly if the characters of the name do, and starts one if they start one.
-/

namespace EntityStore.Text

-----------------------------------------------------------------------------------------
-- Letters in a row
-----------------------------------------------------------------------------------------

/-- A capital sigma has two small letters, and both are letters like those of other characters. -/
private theorem lowerAfter_cons (before rest : List Char) (c : Char)
    : ∃ small more, lowerAfter before (c :: rest) = small :: more ++ lowerAfter (c :: before) rest
      ∧ startsIdentifier small = startsIdentifier c
      ∧ (small :: more).all continuesIdentifier = continuesIdentifier c := by
  rw [lowerAfter]
  by_cases sigma : c = capitalSigma
  · refine ⟨_, [], congrArg (· ++ _) (if_pos sigma), ?_⟩
    rw [sigma]
    split <;> decide
  · obtain ⟨small, more, spelled, starts⟩ := lower_starts c
    refine ⟨small, more, ?_, starts, ?_⟩
    · rw [if_neg sigma, spelled]
    · rw [← spelled, lower_continues]

/-- Witness: induction on the characters. -/
private theorem lowerAfter_continues (before chars : List Char)
    : (lowerAfter before chars).all continuesIdentifier = chars.all continuesIdentifier := by
  induction chars generalizing before with
  | nil => rfl
  | cons c rest ih =>
      obtain ⟨small, more, spelled, -, continues⟩ := lowerAfter_cons before rest c
      rw [spelled, List.all_append, continues, ih, List.all_cons]

theorem lowerAll_continues (chars : List Char)
    : (lowerAll chars).all continuesIdentifier = chars.all continuesIdentifier :=
  lowerAfter_continues [] chars

theorem lowerAll_starts (c : Char) (rest : List Char)
    : ∃ small more, lowerAll (c :: rest) = small :: more
      ∧ startsIdentifier small = startsIdentifier c := by
  obtain ⟨small, more, spelled, starts, -⟩ := lowerAfter_cons [] rest c
  exact ⟨small, _, spelled, starts⟩

theorem upperAll_continues (chars : List Char)
    : (upperAll chars).all continuesIdentifier = chars.all continuesIdentifier := by
  induction chars with
  | nil => rfl
  | cons c rest ih =>
      rw [upperAll, List.flatMap_cons, List.all_append, upper_continues, List.all_cons, ← ih,
        upperAll]

theorem upperAll_starts {c : Char} (letter : startsIdentifier c ∨ isAttached c = false)
    (rest : List Char)
    : ∃ capital more, upperAll (c :: rest) = capital :: more
      ∧ startsIdentifier capital = startsIdentifier c := by
  obtain ⟨capital, more, spelled, starts⟩ := upper_starts letter
  refine ⟨capital, more ++ upperAll rest, ?_, starts⟩
  rw [upperAll, List.flatMap_cons, spelled, upperAll, List.cons_append]

/-- Characters without capitals are small letters wherever they stand. -/
theorem lowerAfter_of_caseless {chars : List Char} (caseless : ∀ c ∈ chars, lower c = [c])
    (before : List Char)
    : lowerAfter before chars = chars := by
  induction chars generalizing before with
  | nil => rfl
  | cons c rest ih =>
      rw [List.forall_mem_cons] at caseless
      have letter : c ≠ capitalSigma := by
        rintro rfl
        exact absurd caseless.1 (by decide)
      unfold lowerAfter
      rw [if_neg letter, caseless.1, ih caseless.2]
      rfl

-----------------------------------------------------------------------------------------
-- Clusters
-----------------------------------------------------------------------------------------

/-- Each of the characters, which are given in reverse, belongs to those before it. -/
inductive Coheres : List Char → Prop
  | single (c : Char) : Coheres [c]
  | joined {before : List Char} {c : Char}
    : Coheres before → joins before c = true → Coheres (c :: before)

/-- The second cluster does not go on with the first one. -/
def Parted (cluster next : Cluster) : Prop :=
  ∀ c ∈ next.head?, joins cluster.reverse c = false

/-- The first cluster goes on with the characters that it has already. -/
private theorem clustersAfter_eq_cons (before chars : List Char)
    : ∃ more others, clustersAfter before chars = (before.reverse ++ more) :: others := by
  induction chars generalizing before with
  | nil => exact ⟨[], [], by simp [clustersAfter]⟩
  | cons c rest ih =>
      unfold clustersAfter
      split_ifs
      · obtain ⟨more, others, parts⟩ := ih (c :: before)
        exact ⟨c :: more, others, by simp [parts]⟩
      · exact ⟨[], clustersAfter [c] rest, by simp⟩

private theorem flatten_clustersAfter (before chars : List Char)
    : (clustersAfter before chars).flatten = before.reverse ++ chars := by
  induction chars generalizing before with
  | nil => simp [clustersAfter]
  | cons c rest ih =>
      unfold clustersAfter
      split_ifs <;> simp [ih]

/-- Witness: induction on the characters, with the cluster that has not ended. -/
private theorem shape_of_clustersAfter {before : List Char} (coheres : Coheres before)
    (chars : List Char)
    : (∀ cluster ∈ clustersAfter before chars, Coheres cluster.reverse)
      ∧ (clustersAfter before chars).IsChain Parted := by
  induction chars generalizing before with
  | nil => simpa [clustersAfter] using coheres
  | cons c rest ih =>
      unfold clustersAfter
      split_ifs with joined
      · exact ih (coheres.joined joined)
      · obtain ⟨shapes, parts⟩ := ih (.single c)
        refine ⟨List.forall_mem_cons.mpr ⟨by simpa using coheres, shapes⟩, ?_⟩
        obtain ⟨more, others, found⟩ := clustersAfter_eq_cons [c] rest
        rw [found] at parts ⊢
        refine List.isChain_cons_cons.mpr ⟨?_, parts⟩
        simpa [Parted] using joined

theorem flatten_clusters (chars : List Char) : (clusters chars).flatten = chars := by
  cases chars with
  | nil => rfl
  | cons c rest => exact flatten_clustersAfter [c] rest

/-- The first cluster of characters starts with the first of them. -/
theorem clusters_cons (c : Char) (rest : List Char)
    : ∃ marks others, clusters (c :: rest) = (c :: marks) :: others :=
  clustersAfter_eq_cons [c] rest

theorem coheres_of_mem_clusters {chars : List Char} {cluster : Cluster}
    (member : cluster ∈ clusters chars)
    : Coheres cluster.reverse := by
  cases chars with
  | nil => cases member
  | cons c rest => exact (shape_of_clustersAfter (.single c) rest).1 cluster member

theorem isChain_clusters (chars : List Char) : (clusters chars).IsChain Parted := by
  cases chars with
  | nil => exact .nil
  | cons c rest => exact (shape_of_clustersAfter (.single c) rest).2

theorem Coheres.ne_nil {chars : List Char} (coheres : Coheres chars) : chars ≠ [] := by
  cases coheres <;> simp

theorem Coheres.exists_cons {cluster : Cluster} (coheres : Coheres cluster.reverse)
    : ∃ c marks, cluster = c :: marks :=
  List.exists_cons_of_ne_nil (by simpa using coheres.ne_nil)

-----------------------------------------------------------------------------------------
-- Characters with marks
-----------------------------------------------------------------------------------------

/-- Nothing but marks belongs to the character. -/
structure Loose (c : Char) : Prop where
  control : isControl c = false
  leader : isLeader c = false
  initial : isIn initialRanges c = false
  medial : isIn medialRanges c = false
  final : isIn finalRanges c = false
  syllable : isIn syllableRanges c = false
  consonant : isIn consonantRanges c = false
  picture : isIn pictureRanges c = false
  flag : isIn flagRanges c = false

/-- Nothing but other marks belongs to marks themselves. -/
theorem loose_of_isAttached {c : Char} (attached : isAttached c) : Loose c := by
  rw [isAttached_eq_testBit] at attached
  have apart := testBit_of_apart TablesAgree.attachersBindNothing attached
  simp only [binders, controls, leaders, Nat.testBit_or, Bool.or_eq_false_iff] at apart
  obtain ⟨⟨⟨⟨⟨⟨⟨⟨control, leader⟩, initial⟩, medial⟩, final⟩, syllable⟩, consonant⟩, picture⟩,
    flag⟩ := apart
  have outside {ranges : List Range} (ascending : ascends 0 ranges)
      (out : (bits ranges).testBit c.toNat = false)
      : isIn ranges c = false :=
    (within_eq_testBit ascending).trans out
  constructor
  · exact outside (by decide) control
  · exact outside (by decide) leader
  · exact outside (by decide) initial
  · exact outside (by decide) medial
  · exact outside (by decide) final
  · exact outside (by decide) syllable
  · exact outside (by decide +kernel) consonant
  · exact outside (by decide +kernel) picture
  · exact outside (by decide) flag

/-- The last character that is no mark is loose, where the characters are given in reverse. -/
def EndsLoosely (before : List Char) : Prop :=
  ∀ c ∈ (before.dropWhile isAttached).head?, Loose c

/-- What stands before some of the marks is loose, as a mark or as a character with marks. -/
private theorem loose_of_dropWhile {before : List Char} {skips : Char → Bool} {c : Char}
    (loose : EndsLoosely before)
    (marks : ∀ c, skips c = true → isAttached c = true)
    (found : (before.dropWhile skips).head? = some c)
    : Loose c := by
  induction before with
  | nil => simp at found
  | cons last earlier ih =>
      cases attached : isAttached last with
      | false =>
          have stays : skips last = false := by
            rw [Bool.eq_false_iff]
            exact fun skipped => Bool.false_ne_true (attached.symm.trans (marks last skipped))
          obtain rfl : last = c := by simpa [stays] using found
          exact loose last (by simp [attached])
      | true =>
          cases skipped : skips last with
          | true =>
              have earlierLoose : EndsLoosely earlier := by
                simpa [EndsLoosely, attached] using loose
              exact ih earlierLoose (by simpa [skipped] using found)
          | false =>
              obtain rfl : last = c := by simpa [skipped] using found
              exact loose_of_isAttached attached

/-- Only marks belong to a loose character and its marks. -/
theorem joins_of_loose {before : List Char} (filled : before ≠ []) (loose : EndsLoosely before)
    (c : Char)
    : joins before c = isAttached c := by
  obtain ⟨last, earlier, rfl⟩ := List.exists_cons_of_ne_nil filled
  have free : Loose last := by
    cases attached : isAttached last with
    | true => exact loose_of_isAttached attached
    | false => exact loose last (by simp [attached])
  cases control : isControl c with
  | true =>
      have feed : (last == '\r') = false := by
        rw [beq_eq_false_iff_ne]
        rintro rfl
        exact absurd free.control (by decide)
      have single : isAttached c = false := by
        rw [Bool.eq_false_iff]
        exact fun attached => absurd (loose_of_isAttached attached).control (by simp [control])
      simp [joins, control, feed, single]
  | false =>
      have spelled : spells last c = false := by
        simp [spells, isOpen, isClosed, free.initial, free.medial, free.final, free.syllable]
      have linked : links (last :: earlier) c = false := by
        rw [links, Bool.and_eq_false_iff, Option.any_eq_false]
        refine .inr fun other found => ?_
        refine (loose_of_dropWhile loose (fun mark stays => ?_) found).consonant
        simp only [links.isInConjunct, Bool.and_eq_true] at stays
        simp [isAttached, stays.1]
      have depicted : depicts (last :: earlier) c = false := by
        cases joined : last == joiner with
        | false => simp [depicts, joined]
        | true =>
            have attached : isAttached last := by
              simp [isAttached, joined]
            rw [depicts, Bool.and_eq_false_iff, Option.any_eq_false]
            refine .inr fun other found => ?_
            have behind : EndsLoosely earlier := by
              simpa [EndsLoosely, attached] using loose
            refine (loose_of_dropWhile behind (fun mark stays => ?_) found).picture
            simp [isAttached, stays]
      have flagged : flags (last :: earlier) c = false := by
        simp [flags, free.flag]
      simp [joins, control, free.control, free.leader, spelled, linked, depicted, flagged]

private theorem endsLoosely_single {c : Char} (loose : Loose c) : EndsLoosely [c] := by
  intro other found
  cases attached : isAttached c with
  | true => simp [attached] at found
  | false =>
      obtain rfl : c = other := by simpa [attached] using found
      exact loose

theorem joins_single {c : Char} (loose : Loose c) (next : Char)
    : joins [c] next = isAttached next :=
  joins_of_loose (by simp) (endsLoosely_single loose) next

/-- The marks behind a loose character are in its cluster. -/
private theorem clustersAfter_of_loose {before : List Char} (filled : before ≠ [])
    (loose : EndsLoosely before) (chars : List Char)
    : clustersAfter before chars
      = (before.reverse ++ chars.takeWhile isAttached)
        :: clusters (chars.dropWhile isAttached) := by
  induction chars generalizing before with
  | nil => simp [clustersAfter, clusters]
  | cons c rest ih =>
      unfold clustersAfter
      rw [joins_of_loose filled loose]
      cases attached : isAttached c with
      | true =>
          rw [if_pos rfl, ih (by simp) (by simpa [EndsLoosely, attached] using loose)]
          simp [attached]
      | false => simp [attached, clusters]

theorem clusters_cons_of_loose {c : Char} (loose : Loose c) (chars : List Char)
    : clusters (c :: chars)
      = (c :: chars.takeWhile isAttached) :: clusters (chars.dropWhile isAttached) :=
  clustersAfter_of_loose (by simp) (endsLoosely_single loose) chars

-----------------------------------------------------------------------------------------
-- Words
-----------------------------------------------------------------------------------------

theorem wordsOf_ne_nil (clusters : List Cluster) : wordsOf clusters ≠ [] := by
  cases clusters with
  | nil => simp [wordsOf]
  | cons first rest =>
      unfold wordsOf
      split_ifs
      · simp
      · simp
      · split <;> simp

theorem wordsOf_cons_separator {first : Cluster} (separates : isSeparator first)
    (rest : List Cluster)
    : wordsOf (first :: rest) = [] :: wordsOf rest := by
  simp [wordsOf, separates]

/-- A cluster that neither separates nor ends a word belongs to the word of the next one. -/
theorem wordsOf_cons_joined {first : Cluster} {rest : List Cluster} {word : List Cluster}
    {others : List (List Cluster)} (plain : isSeparator first = false)
    (joined : endsWord (first :: rest) = false) (found : wordsOf rest = word :: others)
    : wordsOf (first :: rest) = (first :: word) :: others := by
  simp [wordsOf, plain, joined, found]

/-- A cluster that does not separate starts the first word. -/
theorem wordsOf_cons_plain {first : Cluster} (plain : isSeparator first = false)
    (rest : List Cluster)
    : ∃ word others, wordsOf (first :: rest) = (first :: word) :: others := by
  by_cases ends : endsWord (first :: rest)
  · exact ⟨[], wordsOf rest, by simp [wordsOf, plain, ends]⟩
  · obtain ⟨word, others, found⟩ := List.exists_cons_of_ne_nil (wordsOf_ne_nil rest)
    exact ⟨word, others, wordsOf_cons_joined plain (by simpa using ends) found⟩

/-- A separator is a character that marks would belong to. -/
theorem loose_of_isSeparator {cluster : Cluster} (separates : isSeparator cluster)
    : ∃ c, cluster = [c] ∧ Loose c := by
  simp only [isSeparator, decide_eq_true_eq] at separates
  rcases separates with rfl | rfl | rfl
  · exact ⟨'_', rfl, by constructor <;> decide⟩
  · exact ⟨'-', rfl, by constructor <;> decide⟩
  · exact ⟨' ', rfl, by constructor <;> decide⟩

/-- No mark stands behind a separator. -/
theorem isAttached_of_parted {first : Cluster} {c : Char} {marks : List Char}
    (separates : isSeparator first) (parted : Parted first (c :: marks))
    : isAttached c = false := by
  obtain ⟨separator, rfl, loose⟩ := loose_of_isSeparator separates
  rw [← joins_single loose]
  exact parted c rfl

/-- The words have all clusters but the separators. -/
theorem flatten_wordsOf (clusters : List Cluster)
    : (wordsOf clusters).flatten = clusters.filter (!isSeparator ·) := by
  induction clusters with
  | nil => rfl
  | cons first rest ih =>
      by_cases separates : isSeparator first
      · simpa [wordsOf, separates] using ih
      by_cases ends : endsWord (first :: rest)
      · simpa [wordsOf, separates, ends] using ih
      obtain ⟨word, others, found⟩ := List.exists_cons_of_ne_nil (wordsOf_ne_nil rest)
      rw [wordsOf_cons_joined (by simpa using separates) (by simpa using ends) found]
      simpa [found, separates] using ih

-----------------------------------------------------------------------------------------
-- Styles
-----------------------------------------------------------------------------------------

/-- Apart from separators, the characters of the name go on with identifiers. -/
def Continues (name : String) : Prop :=
  ∀ cluster ∈ clusters name.toList, isSeparator cluster ∨ cluster.all continuesIdentifier

/-- The first character of the name behind separators, if there is one, starts identifiers. -/
def Opens (name : String) : Prop :=
  ∀ cluster ∈ (clusters name.toList).find? (!isSeparator ·), cluster.head?.any startsIdentifier

variable {name : String}

theorem toList_snakeCase (name : String)
    : (snakeCase name).toList
      = ['_'].intercalate
          ((wordsOf (clusters name.toList)).map fun word => lowerAll word.flatten) := by
  rw [snakeCase, String.toList_intercalate, List.map_map]
  by_cases empty : name.isEmpty
  · obtain rfl : name = "" := by simpa using empty
    rfl
  · simp [words, empty, Function.comp_def]

theorem toList_pascalCase (name : String)
    : (pascalCase name).toList = (wordsOf (clusters name.toList)).flatMap capitalized := by
  rw [pascalCase, String.toList_ofList]
  by_cases empty : name.isEmpty
  · obtain rfl : name = "" := by simpa using empty
    rfl
  · simp [words, empty]

private theorem all_intercalate {property : Char → Bool} {separator : List Char}
    (plain : separator.all property) (parts : List (List Char))
    : (separator.intercalate parts).all property = parts.all (·.all property) := by
  induction parts with
  | nil => rfl
  | cons part rest ih =>
      cases rest with
      | nil => simp
      | cons next others => simp [List.intercalate_cons_cons, ih, plain]

private theorem words_continue
    : ((wordsOf (clusters name.toList)).all fun word => word.flatten.all continuesIdentifier)
      ↔ Continues name := by
  simp only [List.all_flatten]
  rw [← List.all_flatten, flatten_wordsOf, List.all_filter, List.all_eq_true]
  refine forall₂_congr fun cluster _ => ?_
  cases isSeparator cluster <;> simp

theorem snakeCase_continues
    : (snakeCase name).toList.all continuesIdentifier ↔ Continues name := by
  rw [toList_snakeCase, all_intercalate (by decide), List.all_map]
  simp only [Function.comp_def, lowerAll_continues]
  exact words_continue

private theorem capitalized_continues (word : List Cluster)
    : (capitalized word).all continuesIdentifier = word.flatten.all continuesIdentifier := by
  cases word with
  | nil => rfl
  | cons first rest =>
      rw [capitalized, List.all_append, upperAll_continues, lowerAll_continues,
        List.flatten_cons, List.all_append]

theorem pascalCase_continues
    : (pascalCase name).toList.all continuesIdentifier ↔ Continues name := by
  rw [toList_pascalCase, List.all_flatMap]
  simp only [capitalized_continues]
  exact words_continue

-----------------------------------------------------------------------------------------
-- Identifiers
-----------------------------------------------------------------------------------------

theorem isIdentifier_iff
    : isIdentifier name
      ↔ ∃ c rest, name.toList = c :: rest ∧ startsIdentifier c ∧ rest.all continuesIdentifier := by
  unfold isIdentifier
  cases name.toList with
  | nil => simp
  | cons c rest =>
      rw [Bool.and_eq_true]
      constructor
      · exact fun holds => ⟨c, rest, rfl, holds⟩
      · rintro ⟨first, others, same, holds⟩
        cases same
        exact holds

theorem all_continue_of_isIdentifier (identifier : isIdentifier name)
    : name.toList.all continuesIdentifier := by
  obtain ⟨c, rest, spelled, starts, continues⟩ := isIdentifier_iff.mp identifier
  rw [spelled, List.all_cons, continues_of_starts starts, continues]
  rfl

/-- A text that goes on like an identifier is one if it starts like one. -/
theorem isIdentifier_iff_starts {c : Char} {rest : List Char} (spelled : name.toList = c :: rest)
    (continues : name.toList.all continuesIdentifier)
    : isIdentifier name ↔ startsIdentifier c := by
  rw [spelled, List.all_cons, Bool.and_eq_true] at continues
  simp [isIdentifier, spelled, continues.2]

theorem continues_of_all (all : name.toList.all continuesIdentifier) : Continues name := by
  intro cluster member
  refine .inr (List.all_eq_true.mpr fun c listed => List.all_eq_true.mp all c ?_)
  rw [← flatten_clusters name.toList]
  exact List.mem_flatten_of_mem member listed

theorem continues_of_isIdentifier (identifier : isIdentifier name) : Continues name :=
  continues_of_all (all_continue_of_isIdentifier identifier)

/-- An identifier in small letters is an identifier. -/
theorem isIdentifier_snakeCase (identifier : isIdentifier name)
    : isIdentifier (snakeCase name) := by
  have continues := snakeCase_continues.mpr (continues_of_isIdentifier identifier)
  obtain ⟨c, rest, spelled, starts, -⟩ := isIdentifier_iff.mp identifier
  have opens : ∃ small more, (snakeCase name).toList = small :: more ∧ startsIdentifier small := by
    obtain ⟨marks, others, found⟩ := clusters_cons c rest
    rw [toList_snakeCase, spelled, found]
    by_cases separates : isSeparator (c :: marks)
    · obtain ⟨word, words, after⟩ := List.exists_cons_of_ne_nil (wordsOf_ne_nil others)
      rw [wordsOf_cons_separator separates, after]
      exact ⟨'_', _, rfl, by decide⟩
    · obtain ⟨word, words, after⟩ := wordsOf_cons_plain (by simpa using separates) others
      rw [after, List.map_cons, List.flatten_cons, List.cons_append]
      obtain ⟨small, more, spelled, same⟩ := lowerAll_starts c (marks ++ word.flatten)
      rw [spelled]
      cases words with
      | nil => exact ⟨small, more, by simp, same.trans starts⟩
      | cons next others => exact ⟨small, _, rfl, same.trans starts⟩
  obtain ⟨small, more, spelled, starts⟩ := opens
  exact (isIdentifier_iff_starts spelled continues).mpr starts

/-- Without a word there are no capitals. -/
private theorem capitals_eq_nil {clusters : List Cluster}
    (separate : clusters.find? (!isSeparator ·) = none)
    : (wordsOf clusters).flatMap capitalized = [] := by
  induction clusters with
  | nil => rfl
  | cons first rest ih =>
      by_cases separates : isSeparator first
      · rw [wordsOf_cons_separator separates, List.flatMap_cons,
          ih (by simpa [separates] using separate)]
        rfl
      · simp [separates] at separate

/-- The first cluster of the words comes first in capitals. -/
private theorem prefix_capitals {clusters : List Cluster} {cluster : Cluster}
    (found : clusters.find? (!isSeparator ·) = some cluster)
    : upperAll cluster <+: (wordsOf clusters).flatMap capitalized := by
  induction clusters with
  | nil => simp at found
  | cons first rest ih =>
      by_cases separates : isSeparator first
      · rw [wordsOf_cons_separator separates, List.flatMap_cons]
        exact ih (by simpa [separates] using found)
      · obtain rfl : first = cluster := by simpa [separates] using found
        obtain ⟨word, others, after⟩ := wordsOf_cons_plain (by simpa using separates) rest
        rw [after, List.flatMap_cons, capitalized, List.append_assoc]
        exact List.prefix_append _ _

/-- No mark starts the words, unless it starts the name. -/
private theorem isAttached_of_find? {clusters : List Cluster} (parts : clusters.IsChain Parted)
    {c : Char} {marks : List Char}
    (found : clusters.find? (!isSeparator ·) = some (c :: marks))
    : clusters.head? = some (c :: marks) ∨ isAttached c = false := by
  induction clusters with
  | nil => simp at found
  | cons first rest ih =>
      rw [List.isChain_cons] at parts
      by_cases separates : isSeparator first
      · refine .inr ?_
        rcases ih parts.2 (by simpa [separates] using found) with next | single
        · exact isAttached_of_parted separates (parts.1 _ next)
        · exact single
      · exact .inl (by simpa [separates] using found)

/-- A name with capitals starts with the capital of its first character. -/
theorem upper_prefix_pascalCase {c : Char} {rest : List Char} (spelled : name.toList = c :: rest)
    (plain : c ≠ '_' ∧ c ≠ '-' ∧ c ≠ ' ')
    : upper c <+: (pascalCase name).toList := by
  obtain ⟨marks, others, found⟩ := clusters_cons c rest
  have first : (clusters name.toList).find? (!isSeparator ·) = some (c :: marks) := by
    rw [spelled, found, List.find?_cons_of_pos]
    simp [isSeparator, plain]
  rw [toList_pascalCase]
  refine List.IsPrefix.trans ?_ (prefix_capitals first)
  exact List.prefix_append _ _

theorem all_continue_pascalCase_append {ending : String} (identifier : isIdentifier name)
    (last : isIdentifier ending)
    : (pascalCase name ++ ending).toList.all continuesIdentifier := by
  rw [String.toList_append, List.all_append,
    pascalCase_continues.mpr (continues_of_isIdentifier identifier),
    all_continue_of_isIdentifier last]
  rfl

/-- An identifier with capitals starts an identifier if its words do. -/
theorem isIdentifier_pascalCase_append {ending : String} (identifier : isIdentifier name)
    (last : isIdentifier ending)
    : isIdentifier (pascalCase name ++ ending) ↔ Opens name := by
  have continues := all_continue_pascalCase_append identifier last
  unfold Opens
  cases found : (clusters name.toList).find? (!isSeparator ·) with
  | none =>
      have empty : pascalCase name = "" := by
        rw [← String.toList_eq_nil_iff, toList_pascalCase, capitals_eq_nil found]
      simp [empty, last]
  | some cluster =>
      obtain ⟨c, marks, rfl⟩ :=
        (coheres_of_mem_clusters (List.mem_of_find?_eq_some found)).exists_cons
      have letter : startsIdentifier c ∨ isAttached c = false := by
        rcases isAttached_of_find? (isChain_clusters name.toList) found with first | single
        · obtain ⟨start, rest, spelled, starts, -⟩ := isIdentifier_iff.mp identifier
          obtain ⟨others, later, parts⟩ := clusters_cons start rest
          rw [spelled, parts] at first
          cases first
          exact .inl starts
        · exact .inr single
      obtain ⟨capital, more, spelled, same⟩ := upperAll_starts letter marks
      obtain ⟨others, after⟩ := prefix_capitals found
      have opening : (pascalCase name ++ ending).toList
          = capital :: (more ++ others ++ ending.toList) := by
        rw [String.toList_append, toList_pascalCase, ← after, spelled]
        simp
      rw [isIdentifier_iff_starts opening continues, same]
      simp

/-- A character that is in no identifier and separates no words goes on with no name. -/
theorem not_continues_of_mem {c : Char} (member : c ∈ name.toList)
    (foreign : continuesIdentifier c = false) (inside : c ≠ '-' ∧ c ≠ ' ')
    : ¬ Continues name := by
  intro continues
  rw [← flatten_clusters name.toList, List.mem_flatten] at member
  obtain ⟨cluster, listed, here⟩ := member
  rcases continues cluster listed with separates | all
  · have underscore : continuesIdentifier '_' := by
      decide
    simp only [isSeparator, decide_eq_true_eq] at separates
    rcases separates with rfl | rfl | rfl <;> simp_all
  · have holds := List.all_eq_true.mp all c here
    rw [foreign] at holds
    exact Bool.false_ne_true holds

-----------------------------------------------------------------------------------------
-- Marked names
-----------------------------------------------------------------------------------------

/-- Nothing before the marks of a raw name has a say in the case of what follows them. -/
private theorem lowerAfter_marked (before chars : List Char)
    : lowerAfter (before ++ ['#', 'r']) chars = lowerAfter before chars := by
  have meets (before : List Char) : meetsCased (before ++ ['#', 'r']) = meetsCased before := by
    have stops : ['#', 'r'].dropWhile (isIn caseIgnorableRanges) = ['#', 'r'] := by
      decide
    have caseless : isIn casedRanges '#' = false := by
      decide
    unfold meetsCased
    rw [List.dropWhile_append, stops]
    cases before.dropWhile (isIn caseIgnorableRanges) <;> simp [caseless]
  induction chars generalizing before with
  | nil => rfl
  | cons c rest ih => rw [lowerAfter, lowerAfter, meets, ← List.cons_append, ih]

private theorem lowerAll_raw (chars : List Char)
    : lowerAll ('r' :: '#' :: chars) = 'r' :: '#' :: lowerAll chars := by
  have letter : lower 'r' = ['r'] := by
    decide
  have mark : lower '#' = ['#'] := by
    decide
  have plain : 'r' ≠ capitalSigma ∧ '#' ≠ capitalSigma := by
    decide
  have after : lowerAfter ['#', 'r'] chars = lowerAll chars := lowerAfter_marked [] chars
  rw [lowerAll, lowerAfter, lowerAfter, if_neg plain.1, if_neg plain.2, letter, mark, after]
  rfl

/-- The hash of a raw name with marks is no capital and no digit, and small if the marks are. -/
private theorem hash_case {marks : List Char} (all : marks.all isAttached)
    : isUpper ('#' :: marks) = false ∧ isNumber ('#' :: marks) = false
      ∧ isUpper marks = false ∧ isLower ('#' :: marks) = isLower marks := by
  have caseless : ∀ c ∈ marks, lower c = [c] :=
    fun c member => lower_of_mark (.inl (List.all_eq_true.mp all c member))
  have small : lowerAll marks = marks := lowerAfter_of_caseless caseless []
  have hashSmall : lowerAll ('#' :: marks) = '#' :: marks := by
    have mark : lower '#' = ['#'] := by
      decide
    rw [lowerAll, lowerAfter, if_neg (by decide), mark, lowerAfter_of_caseless caseless]
    rfl
  have hashCapital : upperAll ('#' :: marks) = '#' :: upperAll marks := by
    have mark : upper '#' = ['#'] := by
      decide
    rw [upperAll, List.flatMap_cons, mark, upperAll]
    rfl
  refine ⟨?_, ?_, ?_, ?_⟩
  · simp only [isUpper, hashSmall, decide_eq_false_iff_not, not_and]
    exact fun cased same => cased same.symm
  · rfl
  · simp only [isUpper, small, decide_eq_false_iff_not, not_and]
    exact fun cased same => cased same.symm
  · simp [isLower, hashSmall, hashCapital, small]

private theorem endsWord_hash (rest : List Cluster) : endsWord (['#'] :: rest) = false := by
  have plain : isUpper ['#'] = false ∧ isNumber ['#'] = false ∧ isLower ['#'] = false := by
    decide
  cases rest <;> simp [endsWord, plain]

/-- A mark neither separates words nor is a digit. -/
private theorem plain_of_isAttached {c : Char} (attached : isAttached c) (marks : List Char)
    : isSeparator (c :: marks) = false ∧ isNumber (c :: marks) = false := by
  have high : 0x300 ≤ c.toNat := le_of_isAttached attached
  constructor
  · rw [isSeparator, decide_eq_false_iff_not]
    rintro (same | same | same) <;> cases same <;> exact absurd high (by decide)
  · have notDigit : c.isDigit = false := by
      simp only [Char.isDigit, Bool.and_eq_false_iff, decide_eq_false_iff_not]
      refine .inr fun early => ?_
      have late := Nat.le_trans high (UInt32.le_iff_toNat_le.mp early)
      exact absurd late (by decide)
    rw [isNumber, List.all_cons, notDigit, Bool.false_and]

/-- With the hash in front, marks end a word exactly if they end one without it. -/
private theorem endsWord_hash_marks {c : Char} {marks : List Char}
    (all : (c :: marks).all isAttached) (rest : List Cluster)
    : endsWord (('#' :: c :: marks) :: rest) = endsWord ((c :: marks) :: rest) := by
  obtain ⟨noCapital, noDigit, noCapitalMarks, small⟩ := hash_case all
  rw [List.all_cons, Bool.and_eq_true] at all
  obtain ⟨-, noDigitMarks⟩ := plain_of_isAttached all.1 marks
  cases rest <;> simp [endsWord, noCapital, noDigit, noCapitalMarks, noDigitMarks, small]

private theorem loose_hash : Loose '#' := by
  constructor <;> decide

/-- The hash of a raw name goes with the first word of what follows it.
Witness: marks at the front belong to the hash, and otherwise the hash is a cluster of its own that
ends no word. -/
private theorem wordsOf_hash {chars : List Char} {word : List Cluster} {others : List (List Cluster)}
    (found : wordsOf (clusters chars) = word :: others)
    : ∃ marks rest, clusters ('#' :: chars) = ('#' :: marks) :: rest ∧ marks.all isAttached
      ∧ ∃ marked, wordsOf (clusters ('#' :: chars)) = marked :: others
        ∧ marked.flatten = '#' :: word.flatten := by
  have parts := clusters_cons_of_loose loose_hash chars
  refine ⟨_, _, parts, List.all_takeWhile, ?_⟩
  rw [parts]
  have apart (single : chars.takeWhile isAttached = [] ∧ chars.dropWhile isAttached = chars)
      : ∃ marked,
          wordsOf (('#' :: chars.takeWhile isAttached) :: clusters (chars.dropWhile isAttached))
            = marked :: others
          ∧ marked.flatten = '#' :: word.flatten := by
    rw [single.1, single.2]
    exact ⟨_, wordsOf_cons_joined (by decide) (endsWord_hash _) found, rfl⟩
  cases chars with
  | nil => exact apart ⟨rfl, rfl⟩
  | cons c rest =>
      cases attached : isAttached c with
      | false => exact apart (by simp [attached])
      | true =>
          rw [clusters_cons_of_loose (loose_of_isAttached attached)] at found
          simp only [List.takeWhile_cons, List.dropWhile_cons, attached, if_true]
          generalize clusters (rest.dropWhile isAttached) = later at found ⊢
          have all : (c :: rest.takeWhile isAttached).all isAttached := by
            rw [List.all_cons, attached, List.all_takeWhile]
            rfl
          obtain ⟨plain, -⟩ := plain_of_isAttached attached (rest.takeWhile isAttached)
          have same := endsWord_hash_marks all later
          cases ends : endsWord ((c :: rest.takeWhile isAttached) :: later) with
          | true =>
              simp only [wordsOf, plain, ends, if_true, Bool.false_eq_true, if_false,
                List.cons.injEq] at found
              obtain ⟨rfl, rfl⟩ := found
              refine ⟨['#' :: c :: rest.takeWhile isAttached], ?_, rfl⟩
              simp [wordsOf, isSeparator, same, ends]
          | false =>
              obtain ⟨next, last, after⟩ := List.exists_cons_of_ne_nil (wordsOf_ne_nil later)
              rw [wordsOf_cons_joined plain ends after] at found
              cases found
              exact ⟨_, wordsOf_cons_joined (by simp [isSeparator]) (same.trans ends) after, rfl⟩

/-- A raw name in small letters keeps its marks. -/
theorem snakeCase_raw {bare : String} (spelled : name.toList = 'r' :: '#' :: bare.toList)
    : (snakeCase name).toList = 'r' :: '#' :: (snakeCase bare).toList := by
  obtain ⟨word, others, found⟩ :=
    List.exists_cons_of_ne_nil (wordsOf_ne_nil (clusters bare.toList))
  obtain ⟨marks, rest, parts, all, marked, words, flat⟩ := wordsOf_hash found
  obtain ⟨noCapital, noDigit, -, -⟩ := hash_case all
  have apart : clusters ('r' :: '#' :: bare.toList) = ['r'] :: clusters ('#' :: bare.toList) := by
    have single : isAttached '#' = false := by
      decide
    have loose : Loose 'r' := by
      constructor <;> decide
    rw [clusters_cons_of_loose loose]
    simp [single]
  have joined : endsWord (['r'] :: clusters ('#' :: bare.toList)) = false := by
    have caseOfR : isUpper ['r'] = false ∧ isNumber ['r'] = false := by
      decide
    rw [parts]
    simp [endsWord, noCapital, noDigit, caseOfR]
  rw [toList_snakeCase, toList_snakeCase, spelled, apart,
    wordsOf_cons_joined (by decide) joined words, found, List.map_cons, List.map_cons,
    List.flatten_cons, flat, List.singleton_append, lowerAll_raw]
  cases others <;> simp [List.intercalate_cons_cons]

end EntityStore.Text
