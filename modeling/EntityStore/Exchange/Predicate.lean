import EntityStore.Entity.Accessor
import EntityStore.Exchange.Field
import EntityStore.Predicate.Display
import EntityStore.Query

/-! Exchange documents of predicates and sort keys.
A predicate is written as it stands, or as what builds it: the combinators, a path of names, or a
typed path that starts at an entity type.
-/

namespace EntityStore.Exchange

open Json

/-- The comparison of a document. -/
def readComparison? (json : Json) : Option Comparison := do
  let value := readValue? (json.member "value")
  match ← json.textAt? "is" with
  | "equals" => return .equals (← value)
  | "in" => return .isIn (← (← (json.member "values").elements?).mapM readValue?)
  | "contains" => return .contains (← json.textAt? "text")
  | "is_nil" => return .isNil
  | "is_true" => return .isTrue
  | "is_false" => return .isFalse
  | "greater_than" => return .greaterThan (← value)
  | "greater_than_or_equal" => return .greaterThanOrEqual (← value)
  | "less_than" => return .lessThan (← value)
  | "less_than_or_equal" => return .lessThanOrEqual (← value)
  | _ => none

/-- The document of a comparison. -/
def writeComparison (comparison : Comparison) : Json :=
  let write (name : String) (members : List (String × Json)) : Json :=
    .record (("is", .text name) :: members)
  match comparison with
  | .equals value => write "equals" [("value", writeValue value)]
  | .isIn values => write "in" [("values", .array (values.map writeValue))]
  | .contains text => write "contains" [("text", .text text)]
  | .isNil => write "is_nil" []
  | .isTrue => write "is_true" []
  | .isFalse => write "is_false" []
  | .greaterThan bound => write "greater_than" [("value", writeValue bound)]
  | .greaterThanOrEqual bound => write "greater_than_or_equal" [("value", writeValue bound)]
  | .lessThan bound => write "less_than" [("value", writeValue bound)]
  | .lessThanOrEqual bound => write "less_than_or_equal" [("value", writeValue bound)]

/-- The comparison of an attribute of a type, if it can be made. -/
def readTypedComparison? (type : ScalarType) (json : Json) : Option TypedComparison := do
  let argument := json.member "arg"
  let scalar := readScalar? type argument
  let comparison : TypedComparison ←
    match ← json.textAt? "is" with
    | "is_true" => some .isTrue
    | "is_false" => some .isFalse
    | "is_nil" => some .isNil
    | "equals" => scalar.map .equals
    | "not_equals" => scalar.map .notEquals
    | "is_in" => do return .isIn (← (← argument.elements?).mapM (readScalar? type))
    | "contains" => argument.toText?.map .contains
    | "greater_than" => scalar.map .greaterThan
    | "greater_than_or_equal" => scalar.map .greaterThanOrEqual
    | "less_than" => scalar.map .lessThan
    | "less_than_or_equal" => scalar.map .lessThanOrEqual
    | _ => none
  if comparison.appliesTo type then some comparison else none

/-- The entity type that typed paths start at; without one there are none. -/
abbrev Start := Option (Model × String)

/-- A step of a path, with whether it crosses a list. -/
def readStep? (json : Json) : Option (String × Bool) := do
  match ← json.elements? with
  | [name, list] => return (← name.toText?, ← list.toBool?)
  | _ => none

/-- The names of a typed path. -/
def readNames? (json : Json) : Option (List String) := do
  (← json.elements?).mapM Json.toText?

/-- The comparison at the end of a path of names. -/
def readFieldPredicate? (json : Json) : Option Predicate := do
  let steps ← (← (json.member "path").elementsOrNone?).mapM readStep?
  let path := steps.foldl (fun path (name, list) => path.step name list) KeyPath.root
  let type ← scalarType? (← json.textAt? "type")
  let comparison ← readTypedComparison? type (json.member "cmp")
  return comparison.predicate (path.step (← json.textAt? "name") (← json.flagAt? "array"))

/-- The comparison at the end of a typed path. -/
def readLeafPredicate? (start : Start) (json : Json) : Option Predicate := do
  let (model, entity) ← start
  let names ← readNames? (json.member "path")
  let (_, type) ← model.leaf? entity names
  model.leafPredicate? entity names (← readTypedComparison? type (json.member "cmp"))

/-- The predicate of a document that is nested at most to a depth. -/
def readPredicateWithin? (start : Start) : Nat → Json → Option Predicate
  | 0, _ => none
  | depth + 1, json => do
      let read (key : String) := readPredicateWithin? start depth (json.member key)
      let terms : Option (List Predicate) := do
        (← (json.member "terms").elements?).mapM (readPredicateWithin? start depth)
      match ← json.textAt? "p" with
      | "true" => some .everything
      | "false" => some .nothing
      | "cmp" =>
          return .compare (← json.textAt? "key") (← json.flagAt? "any")
            (← readComparison? (json.member "cmp"))
      | "field" => readFieldPredicate? json
      | "leaf" => readLeafPredicate? start json
      | "and" => return .all (← terms)
      | "or" => return .any (← terms)
      | "And" => return .conjunction (← terms)
      | "Or" => return .disjunction (← terms)
      | "Not" => return .negation (← read "term")
      | "&" => return (← read "left").and (← read "right")
      | "|" => return (← read "left").or (← read "right")
      | "!" => return (← read "term").not
      | _ => none

/-- The predicate of a document. -/
def readPredicate? (start : Start) (json : Json) : Option Predicate :=
  readPredicateWithin? start depthLimit json

mutual
/-- The document of a predicate. -/
def writePredicate : Predicate → Json
  | .everything => .record [("p", .text "true")]
  | .nothing => .record [("p", .text "false")]
  | .compare key anyOf comparison =>
      .record
        [("p", .text "cmp"), ("key", .text key), ("any", .bool anyOf),
          ("cmp", writeComparison comparison)]
  | .conjunction terms => .record [("p", .text "And"), ("terms", .array (writeTerms terms))]
  | .disjunction terms => .record [("p", .text "Or"), ("terms", .array (writeTerms terms))]
  | .negation term => .record [("p", .text "Not"), ("term", writePredicate term)]

/-- The documents of terms. -/
def writeTerms : List Predicate → List Json
  | [] => []
  | term :: terms => writePredicate term :: writeTerms terms
end

/-- What is given for a filter: nothing, several terms, two, perhaps one, or one. -/
def readTerms? (start : Start) (json : Json) : Option (Collected Predicate) := do
  match json with
  | .null => some .nothing
  | .array terms => return .several (← terms.mapM (readPredicate? start))
  | .object [(some "pair", pair)] =>
      match ← pair.elements? with
      | [left, right] => return .several [← readPredicate? start left, ← readPredicate? start right]
      | _ => none
  | .object [(some "maybe", term)] => return .perhaps (← term.toOption? (readPredicate? start))
  | json => return .one (← readPredicate? start json)

/-- The terms of a filter. -/
def readFilter? (start : Start) (json : Json) : Option (List Predicate) :=
  (readTerms? start json).map Collected.toList

/-- The direction of a sort key: upwards or not. -/
def readDirection? : Json → Option Bool
  | .bool ascending => some ascending
  | .string (some "asc") => some true
  | .string (some "desc") => some false
  | _ => none

/-- The sort key of a document: a key, or names with a direction. -/
def readSortKey? (start : Start) (json : Json) : Option SortDescriptor := do
  match ← json.elements? with
  | [.string key, direction] =>
      return { key := ← key, ascending := (← direction.toText?) = "asc" }
  | [path, direction] =>
      let names ← readNames? path
      let ascending ← readDirection? direction
      match start with
      | some (model, entity) => model.leafSort? entity names ascending
      | none => if names.isEmpty then none else some { key := names.foldl joinKey "", ascending }
  | _ => none

/-- The sort keys of a document. -/
def readSort? (start : Start) (json : Json) : Option (List SortDescriptor) := do
  (← json.elementsOrNone?).mapM (readSortKey? start)

/-- The document of sort keys, as their texts. -/
def writeSort (sort : List SortDescriptor) : Json :=
  .array (sort.map (fun descriptor => .text descriptor.displayText))

end EntityStore.Exchange
