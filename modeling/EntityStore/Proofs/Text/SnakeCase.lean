import EntityStore.Proofs.Text.Words

/-! Names in small letters say what their words are.
In the words of a name an underscore belongs to the character before it, or a mark belongs to it,
and neither is so between words. So the underscores between words can be told apart from those in
words, and two names are the same in small letters exactly if they have the same small words.
-/

namespace EntityStore.Text

-----------------------------------------------------------------------------------------
-- Small letters
-----------------------------------------------------------------------------------------

/-- The characters are alike in what belongs to them and in what they belong to. -/
structure Alike (c other : Char) : Prop where
  attached : isAttached c = isAttached other
  leader : isLeader c = isLeader other
  underscore : c = '_' ↔ other = '_'

variable {before : List Char} {last c : Char}

end EntityStore.Text
