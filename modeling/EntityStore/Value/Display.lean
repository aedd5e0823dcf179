import EntityStore.Text.Quoted
import EntityStore.Value.Basic

/-! The display text of values, as it stands in the text of predicates. -/

namespace EntityStore.Value

mutual
/-- The display text of a value. -/
def displayText : Value → String
  | .bool b => if b then "true" else "false"
  | .integer i => Number.integerText i.toInt
  | .float x => x.displayText
  | .double x => x.displayText
  | .string s => Text.quoted s
  | .timestamp t => t.displayText
  | .list items => "\x7b" ++ displayItems items ++ "\x7d"

/-- The display texts of values between commas. -/
def displayItems : List Value → String
  | [] => ""
  | [item] => item.displayText
  | item :: rest => item.displayText ++ ", " ++ displayItems rest
end

end EntityStore.Value
