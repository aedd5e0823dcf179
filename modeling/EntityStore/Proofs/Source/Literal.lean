import EntityStore.Source.Literal
import Mathlib.Data.Nat.Digits.Defs

/-! The literal of a text stands for the text.
Every character of a text is spelled by itself or by an escape, and reading a spelling takes exactly the
character that it stands for. So no text is changed by the code that holds its literal.
-/

namespace EntityStore.Source

-----------------------------------------------------------------------------------------
-- Characters that are named by their numbers
-----------------------------------------------------------------------------------------

/-- A digit is read as its value, and is no end of a number. -/
private theorem hexValue?_digitChar
    : ∀ digit < 16,
        Json.hexValue? (Nat.digitChar digit) = some digit
        ∧ Nat.digitChar digit ≠ '_'
        ∧ Nat.digitChar digit ≠ '}' := by
  decide

/-- A digit that is not too many goes on with a number. -/
private theorem bracedNumber_digit {count value digit : Nat} (small : digit < 16) (room : count ≠ 6)
    (rest : List Char)
    : bracedNumber count value (Nat.digitChar digit :: rest)
      = bracedNumber (count + 1) (16 * value + digit) rest := by
  obtain ⟨known, noBreak, noEnd⟩ := hexValue?_digitChar digit small
  rw [bracedNumber]
  simp only [noBreak, noEnd, known, room, false_and, if_false]

/-- The digits of a number are read as the number.
Witness: induction on the number; the last digit is read after those of the number without it.
-/
private theorem bracedNumber_toDigits (n : Nat) (rest : List Char)
    (short : (Nat.toDigits 16 n).length ≤ 6)
    : bracedNumber 0 0 (Nat.toDigits 16 n ++ rest) = bracedNumber (Nat.toDigits 16 n).length n rest := by
  induction n using Nat.strongRecOn generalizing rest with
  | ind n ih =>
      rw [Nat.toDigits_eq_if (by decide)] at short ⊢
      split at short
      · next small =>
          rw [if_pos small, List.singleton_append, bracedNumber_digit small (by decide)]
          simp
      · next large =>
          rw [List.length_append, List.length_singleton] at short
          rw [if_neg large, List.append_assoc, ih (n / 16) (by omega) _ (by omega),
            List.singleton_append, bracedNumber_digit (by omega) (by omega), List.length_append,
            List.length_singleton, Nat.div_add_mod]

-----------------------------------------------------------------------------------------
-- Spellings
-----------------------------------------------------------------------------------------

/-- Reading the characters takes one character of a text. -/
private def Spells (spelling : List Char) (c : Char) : Prop :=
  ∀ bound rest,
    unescapedWithin (bound + 1) (spelling ++ rest) = (c :: ·) <$> unescapedWithin bound rest

/-- A character that is no quote, backslash or carriage return spells itself. -/
private theorem Spells.self {c : Char} (noQuote : c ≠ '"') (noEscape : c ≠ '\\') (noReturn : c ≠ '\r')
    : Spells [c] c := by
  intro bound rest
  rw [List.singleton_append, unescapedWithin]
  all_goals simp [noQuote, noEscape, noReturn]

/-- An escape spells the character that it stands for, unless it goes on in the next line. -/
private theorem Spells.escape (letter : Char) (others : List Char) {c : Char} (noFeed : letter ≠ '\n')
    (noReturn : letter ≠ '\r')
    (stands : ∀ rest, Source.escape .forText (letter :: (others ++ rest)) = some (c, rest))
    : Spells ('\\' :: letter :: others) c := by
  intro bound rest
  rw [List.cons_append, List.cons_append, unescapedWithin, stands]
  · rfl
  · exact fun _ same => noFeed (List.cons.inj same).1
  · exact fun _ same => noReturn (List.cons.inj same).1

/-- Nothing is spelled by no characters. -/
private theorem Spells.length_pos {spelling : List Char} {c : Char} (spells : Spells spelling c)
    : 0 < spelling.length := by
  rw [List.length_pos_iff]
  rintro rfl
  have none := spells 0 ['"']
  simp [unescapedWithin] at none

/-- The number of a character spells it. -/
private theorem spells_named (c : Char) : Spells (Text.named c).toList c := by
  have spelled : (Text.named c).toList = '\\' :: 'u' :: ('{' :: (Nat.toDigits 16 c.toNat ++ ['}'])) := by
    simp [Text.named, Text.hexText]
  rw [spelled]
  refine .escape 'u' _ (by decide) (by decide) (fun rest => ?_)
  have bound : c.toNat < 16 ^ 6 := by
    have valid : c.toNat < 0xd800 ∨ 0xdfff < c.toNat ∧ c.toNat < 0x110000 := c.valid
    omega
  have short : (Nat.toDigits 16 c.toNat).length ≤ 6 :=
    (Nat.length_toDigits_le_iff (by decide) (by decide)).mpr bound
  have number : bracedNumber 0 0 (Nat.toDigits 16 c.toNat ++ ('}' :: rest)) = some (c.toNat, rest) := by
    have some : 0 < (Nat.toDigits 16 c.toNat).length := List.length_pos_iff.mpr Nat.toDigits_ne_nil
    rw [bracedNumber_toDigits _ _ short, bracedNumber]
    simp [some]
  have char : charOf? c.toNat = some c := by
    rw [charOf?, if_pos (show c.toNat.isValidChar from c.valid), Char.ofNat_toNat]
  rw [List.cons_append, List.append_assoc, List.singleton_append, Source.escape, number]
  simp [char, EscapeRules.forText]

/-- Every character is spelled by what stands for it in a literal. -/
private theorem spells_escaped (c : Char) : Spells (Text.escaped c).toList c := by
  unfold Text.escaped
  split
  · next same => exact same ▸ .escape '0' [] (by decide) (by decide) (fun _ => rfl)
  split
  · next same => exact same ▸ .escape 't' [] (by decide) (by decide) (fun _ => rfl)
  split
  · next same => exact same ▸ .escape 'r' [] (by decide) (by decide) (fun _ => rfl)
  split
  · next same => exact same ▸ .escape 'n' [] (by decide) (by decide) (fun _ => rfl)
  split
  · next same => exact same ▸ .escape '"' [] (by decide) (by decide) (fun _ => rfl)
  split
  · next same => exact same ▸ .escape '\\' [] (by decide) (by decide) (fun _ => rfl)
  split
  · exact spells_named c
  split
  · next noReturn _ noQuote noEscape _ _ =>
      have self : c.toString.toList = [c] := by simp [Char.toString]
      rw [self]
      exact .self noQuote noEscape noReturn
  · exact spells_named c

/-- The parts of a literal spell the characters of the text one by one. -/
private theorem literalChars_spell (chars : List Char)
    : List.Forall₂ (fun spelling c => Spells spelling.toList c) (literalChars chars) chars := by
  induction chars using literalChars.induct with
  | case1 => exact .nil
  | case2 c rest ih =>
      rw [literalChars]
      refine .cons ?_ ih
      split
      · exact .escape 'x' ['0', '0'] (by decide) (by decide) (fun _ => rfl)
      · exact .escape '0' [] (by decide) (by decide) (fun _ => rfl)
  | case3 rest ih =>
      rw [literalChars]
      exact .cons (.self (by decide) (by decide) (by decide)) ih
  | case4 c rest noZero noQuote ih =>
      rw [literalChars]
      · exact .cons (spells_escaped c) ih
      · exact noZero
      · exact noQuote

/-- Spellings in a row are read as the characters that they spell, up to the closing quote. -/
private theorem unescapedWithin_of_spell {spellings : List String} {chars : List Char}
    (spell : List.Forall₂ (fun spelling c => Spells spelling.toList c) spellings chars) {bound : Nat}
    (enough : chars.length < bound)
    : unescapedWithin bound (spellings.flatMap String.toList ++ ['"']) = some chars := by
  induction spell generalizing bound with
  | nil =>
      obtain ⟨less, rfl⟩ : ∃ less, bound = less + 1 := ⟨bound - 1, by omega⟩
      rfl
  | @cons spelling c spellings chars spells _ ih =>
      obtain ⟨less, rfl⟩ : ∃ less, bound = less + 1 := ⟨bound - 1, by omega⟩
      rw [List.flatMap_cons, List.append_assoc, spells, ih (by simpa using enough)]
      rfl

/-- A text is no longer than its spellings. -/
private theorem length_le_of_spell {spellings : List String} {chars : List Char}
    (spell : List.Forall₂ (fun spelling c => Spells spelling.toList c) spellings chars)
    : chars.length ≤ (spellings.flatMap String.toList).length := by
  induction spell with
  | nil => exact Nat.le_refl _
  | cons spells _ ih =>
      have := spells.length_pos
      rw [List.length_cons, List.flatMap_cons, List.length_append]
      omega

/-- The literal of a text stands for the text. -/
theorem stringValue?_stringLiteral (text : String) : stringValue? (stringLiteral text) = some text := by
  have spelled : (stringLiteral text).toList
      = '"' :: ((literalChars text.toList).flatMap String.toList ++ ['"']) := by
    simp [stringLiteral, String.toList_join]
  have spell := literalChars_spell text.toList
  have short := length_le_of_spell spell
  unfold stringValue?
  rw [spelled]
  change String.ofList <$> unescapedWithin _ _ = some text
  rw [unescapedWithin_of_spell spell (by rw [List.length_append]; omega), Option.map_eq_map,
    Option.map_some, String.ofList_toList]

end EntityStore.Source
