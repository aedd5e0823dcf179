import EntityStore.Json.Reader
import Mathlib.Data.List.Forall2

/-! String literals are read back.
Every character of a content is a piece of its literal, by itself or by its number, and no number that is
written is half of a surrogate pair.
-/

namespace EntityStore.Json

/-- A piece stands for a character, which it holds or gives the number of. -/
inductive Piece.Names : Piece → Char → Prop
  | char (c : Char) : Names (.char c) c
  | code (c : Char) (control : c.toNat < 32) : Names (.code c.toNat) c

-----------------------------------------------------------------------------------------
-- Escapes
-----------------------------------------------------------------------------------------

/-- The digit of a hexadecimal place is read back. -/
theorem hexValue?_hexDigit (n : Nat) : hexValue? (hexDigit n) = some (n % 16) := by
  have all : ∀ d < 16, hexValue? (Nat.digitChar d) = some d := by decide
  exact all (n % 16) (Nat.mod_lt n (by decide))

/-- The four digits of a control character are read as its number. -/
theorem hexNumber?_control {n : Nat} (small : n < 32)
    : hexNumber? ['0', '0', hexDigit (n / 16), hexDigit n] = some n := by
  have zero : hexValue? '0' = some 0 := by decide
  simp only [hexNumber?, List.foldl_cons, List.foldl_nil, hexValue?_hexDigit, zero,
    Option.bind_eq_bind, Option.bind_some, Option.pure_def, Option.some.injEq]
  omega

/-- How a character is written in a literal: by a letter, by its number or by itself. -/
theorem escape_cases (c : Char)
    : (∃ letter, letter ≠ 'u' ∧ unescape? letter = some c ∧ escape c = ['\\', letter])
      ∨ (c.toNat < 32
        ∧ escape c = ['\\', 'u', '0', '0', hexDigit (c.toNat / 16), hexDigit c.toNat])
      ∨ (c ≠ '"' ∧ c ≠ '\\' ∧ ¬ c.toNat < 32 ∧ escape c = [c]) := by
  have named (c letter : Char) (other : letter ≠ 'u') (read : unescape? letter = some c)
      (written : escape c = ['\\', letter])
      : ∃ letter, letter ≠ 'u' ∧ unescape? letter = some c ∧ escape c = ['\\', letter] :=
    ⟨letter, other, read, written⟩
  by_cases letters : c ∈ ['"', '\\', '\n', '\r', '\t', '\x08', '\x0c']
  · left
    simp only [List.mem_cons, List.not_mem_nil, or_false] at letters
    rcases letters with rfl | rfl | rfl | rfl | rfl | rfl | rfl
    · exact named _ '"' (by decide) rfl rfl
    · exact named _ '\\' (by decide) rfl rfl
    · exact named _ 'n' (by decide) rfl rfl
    · exact named _ 'r' (by decide) rfl rfl
    · exact named _ 't' (by decide) rfl rfl
    · exact named _ 'b' (by decide) rfl rfl
    · exact named _ 'f' (by decide) rfl rfl
  · right
    simp only [List.mem_cons, List.not_mem_nil, or_false, not_or] at letters
    obtain ⟨quote, backslash, newline, carriage, tab, backspace, feed⟩ := letters
    unfold escape
    rw [if_neg quote, if_neg backslash, if_neg newline, if_neg carriage, if_neg tab,
      if_neg backspace, if_neg feed]
    by_cases control : c.toNat < 32
    · exact Or.inl ⟨control, if_pos control⟩
    · exact Or.inr ⟨quote, backslash, control, if_neg control⟩

/-- A character that was escaped is scanned as one piece. -/
theorem scanString_escape (c : Char) (more : List Char)
    : ∃ piece : Piece,
        piece.Names c
        ∧ scanString (escape c ++ more)
          = (scanString more).map (fun (pieces, rest) => (piece :: pieces, rest)) := by
  rcases escape_cases c with ⟨letter, other, read, written⟩ | ⟨control, written⟩
    | ⟨quote, backslash, visible, written⟩
  · refine ⟨.char c, .char c, ?_⟩
    rw [written, List.cons_append, List.cons_append, List.nil_append, scanString, read]
    · cases scanString more <;> rfl
    · intro a b c d rest same
      exact absurd same other
  · refine ⟨.code c.toNat, .code c control, ?_⟩
    simp only [written, List.cons_append, List.nil_append, scanString]
    rw [hexNumber?_control control]
    cases scanString more <;> rfl
  · refine ⟨.char c, .char c, ?_⟩
    rw [written, List.cons_append, List.nil_append, scanString, if_neg (by simp [backslash, visible])]
    · cases scanString more <;> rfl
    · exact quote
    · intro _ _ _ _ _ same _
      exact backslash same
    · intro _ _ same _
      exact backslash same

-----------------------------------------------------------------------------------------
-- Contents
-----------------------------------------------------------------------------------------

/-- The literal of a content is scanned to its closing quote. -/
theorem scanString_flatMap (chars rest : List Char)
    : ∃ pieces : List Piece,
        List.Forall₂ Piece.Names pieces chars
        ∧ scanString (chars.flatMap escape ++ '"' :: rest) = some (pieces, rest) := by
  induction chars with
  | nil => exact ⟨[], .nil, rfl⟩
  | cons c chars ih =>
      obtain ⟨pieces, name, scanned⟩ := ih
      obtain ⟨piece, first, step⟩ := scanString_escape c (chars.flatMap escape ++ '"' :: rest)
      refine ⟨piece :: pieces, .cons first name, ?_⟩
      rw [List.flatMap_cons, List.append_assoc, step, scanned]
      rfl

/-- Pieces hold the characters that they stand for. -/
theorem content?_of_names {pieces : List Piece} {chars : List Char}
    (names : List.Forall₂ Piece.Names pieces chars)
    : content? pieces = some chars := by
  induction names with
  | nil => rfl
  | @cons piece c pieces chars first rest ih =>
      cases first with
      | char c => rw [content?, ih]; rfl
      | code c control =>
          have leads : leads c.toNat = false := by simp [leads]; omega
          have trails : trails c.toNat = false := by simp [trails]; omega
          have read : content? (.code c.toNat :: pieces) = (content? pieces).map (c :: ·) := by
            cases pieces with
            | nil => simp [content?, leads, trails, Char.ofNat_toNat]
            | cons piece pieces => cases piece <;> simp [content?, leads, trails, Char.ofNat_toNat]
          rw [read, ih]
          rfl

end EntityStore.Json
