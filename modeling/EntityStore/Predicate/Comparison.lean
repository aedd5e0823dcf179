import EntityStore.Field.Scalar
import EntityStore.Text.Fold

/-! Comparisons of one attribute slot with what is looked for.
A slot holds a value or is empty. Only the tests for an empty slot and for what counts as false
accept an empty one.
-/

namespace EntityStore

/-- A test of one slot. -/
inductive Comparison where
  | equals (value : Value)
  | isIn (values : List Value)
  /-- Contains a text when case and diacritics are ignored. -/
  | contains (text : String)
  | isNil
  | isTrue
  /-- False, or empty. -/
  | isFalse
  | greaterThan (bound : Value)
  | greaterThanOrEqual (bound : Value)
  | lessThan (bound : Value)
  | lessThanOrEqual (bound : Value)
  deriving DecidableEq, Repr

namespace Comparison

/-- The test of a value that is there. -/
def holds (comparison : Comparison) (value : Value) : Bool :=
  match comparison with
  | equals expected => value.looselyEquals expected
  | isIn candidates => candidates.any value.looselyEquals
  | contains needle => value.text?.any (Text.containsFolded · needle)
  | isNil => false
  | isTrue => value = .bool true
  | isFalse => value = .bool false
  | greaterThan bound => value.compare? bound = some .gt
  | greaterThanOrEqual bound =>
      value.compare? bound = some .gt || value.compare? bound = some .eq
  | lessThan bound => value.compare? bound = some .lt
  | lessThanOrEqual bound =>
      value.compare? bound = some .lt || value.compare? bound = some .eq

/-- The test of a slot. -/
def test (comparison : Comparison) : Option Value → Bool
  | some value => comparison.holds value
  | none =>
      match comparison with
      | isNil => true
      | isFalse => true
      | _ => false

end Comparison

end EntityStore
