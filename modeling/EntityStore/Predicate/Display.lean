import EntityStore.Predicate.Basic
import EntityStore.Value.Display

/-! The text of predicates. -/

namespace EntityStore

/-- The text of a comparison at a key. -/
def Comparison.displayText (key : String) : Comparison → String
  | .equals value => key ++ " == " ++ value.displayText
  | .isIn values => key ++ " IN " ++ (Value.list values).displayText
  | .contains text => key ++ " CONTAINS[cd] " ++ Text.quoted text
  | .isNil => key ++ " == nil"
  | .isTrue => key ++ " == true"
  | .isFalse => "(" ++ key ++ " == false OR " ++ key ++ " == nil)"
  | .greaterThan bound => key ++ " > " ++ bound.displayText
  | .greaterThanOrEqual bound => key ++ " >= " ++ bound.displayText
  | .lessThan bound => key ++ " < " ++ bound.displayText
  | .lessThanOrEqual bound => key ++ " <= " ++ bound.displayText

namespace Predicate

mutual
/-- The text of a predicate. -/
def displayText : Predicate → String
  | everything => "TRUEPREDICATE"
  | nothing => "FALSEPREDICATE"
  | compare key anyOf comparison =>
      comparison.displayText (if anyOf then "ANY " ++ key else key)
  | conjunction terms => "(" ++ displayTerms " AND " terms ++ ")"
  | disjunction terms => "(" ++ displayTerms " OR " terms ++ ")"
  | negation term => "NOT " ++ displayText term

/-- The texts of terms with a word between them. -/
def displayTerms (word : String) : List Predicate → String
  | [] => ""
  | [term] => term.displayText
  | term :: terms => term.displayText ++ word ++ displayTerms word terms
end

end Predicate

end EntityStore
