import EntityStore.Value.Basic

/-! The shapes of fields.
A field holds one item, perhaps one, a list, or perhaps a list. The shape decides how the items
stand in the attribute of a record: an absent attribute reads as no item or as an empty list, and
only a list is read as a list.
-/

namespace EntityStore

/-- How many items a field holds. -/
structure Shape where
  optional : Bool
  list : Bool
  deriving DecidableEq, Repr

namespace Shape

/-- Exactly one item. -/
def one : Shape := ⟨false, false⟩

/-- One item or none. -/
def option : Shape := ⟨true, false⟩

/-- A list of items. -/
def many : Shape := ⟨false, true⟩

/-- A list of items or none. -/
def optionMany : Shape := ⟨true, true⟩

end Shape

/-- The content of a field. -/
inductive Shaped (α : Type u) where
  | one (item : α)
  | option (item : Option α)
  | many (items : List α)
  | optionMany (items : Option (List α))
  deriving DecidableEq, Repr

namespace Shaped

/-- The shape of a content. -/
def shape : Shaped α → Shape
  | one _ => .one
  | option _ => .option
  | many _ => .many
  | optionMany _ => .optionMany

/-- All items of a content. -/
def items : Shaped α → List α
  | one item => [item]
  | option item => item.toList
  | many items => items
  | optionMany items => items.getD []

/-- The contents have the same form, and their items agree one by one. -/
def agree (same : α → α → Bool) : Shaped α → Shaped α → Bool
  | one a, one b => same a b
  | option a, option b => match a, b with
      | some a, some b => same a b
      | none, none => true
      | _, _ => false
  | many a, many b => agreeAll a b
  | optionMany a, optionMany b => match a, b with
      | some a, some b => agreeAll a b
      | none, none => true
      | _, _ => false
  | _, _ => false
where
  /-- The lists have the same length, and their items agree one by one. -/
  agreeAll : List α → List α → Bool
    | [], [] => true
    | a :: as, b :: bs => same a b && agreeAll as bs
    | _, _ => false

/-- The content as an attribute, where none leaves the attribute out. -/
def encode [Monad m] (write : α → m Value) : Shaped α → m (Option Value)
  | one item => some <$> write item
  | option none => pure none
  | option (some item) => some <$> write item
  | many items => (some ∘ .list) <$> items.mapM write
  | optionMany none => pure none
  | optionMany (some items) => (some ∘ .list) <$> items.mapM write

end Shaped

namespace Shape

/-- A list as it is read from the attribute of a field. -/
def decodeList [Monad m] (read : Value → OptionT m α) : Value → OptionT m (List α)
  | .list items => items.mapM read
  | _ => failure

/-- The content that an attribute holds for a field of a shape. -/
def decode [Monad m] (read : Value → OptionT m α)
    : Shape → Option Value → OptionT m (Shaped α)
  | ⟨false, false⟩, none => failure
  | ⟨false, false⟩, some value => .one <$> read value
  | ⟨true, false⟩, none => pure (.option none)
  | ⟨true, false⟩, some value => (.option ∘ some) <$> read value
  | ⟨false, true⟩, none => pure (.many [])
  | ⟨false, true⟩, some value => .many <$> decodeList read value
  | ⟨true, true⟩, none => pure (.optionMany none)
  | ⟨true, true⟩, some value => (.optionMany ∘ some) <$> decodeList read value

end Shape

end EntityStore
