import EntityStore.Predicate.Comparison
import EntityStore.Predicate.Path

/-! Predicates over the records of one entity.
The combinators simplify what they build, and what they build matches the same records as the plain
conjunction, disjunction or negation.
-/

namespace EntityStore

/-- A filter expression. -/
inductive Predicate where
  | everything
  | nothing
  /-- A comparison at a key: of any slot that the key reaches, or of the first one. -/
  | compare (key : String) (anyOf : Bool) (comparison : Comparison)
  | conjunction (terms : List Predicate)
  | disjunction (terms : List Predicate)
  | negation (term : Predicate)
  deriving Repr, Inhabited

namespace Predicate

mutual
/-- The record matches. -/
def evaluate (source : RecordSource) (record : Record) : Predicate → Bool
  | everything => true
  | nothing => false
  | compare key anyOf comparison =>
      if anyOf then (reach source key record).any comparison.test
      else comparison.test (firstReached? source key record)
  | conjunction terms => evaluateAll source record terms
  | disjunction terms => evaluateAny source record terms
  | negation term => !evaluate source record term

/-- The record matches every term. -/
def evaluateAll (source : RecordSource) (record : Record) : List Predicate → Bool
  | [] => true
  | term :: terms => evaluate source record term && evaluateAll source record terms

/-- The record matches some term. -/
def evaluateAny (source : RecordSource) (record : Record) : List Predicate → Bool
  | [] => false
  | term :: terms => evaluate source record term || evaluateAny source record terms
end

/-- The predicate that matches everything, in this very form. -/
def isEverything : Predicate → Bool
  | everything => true
  | _ => false

/-- The predicate that matches nothing, in this very form. -/
def isNothing : Predicate → Bool
  | nothing => true
  | _ => false

/-- All terms together. Terms that match everything are left out. -/
def all (terms : List Predicate) : Predicate :=
  match terms.filter (fun term => !term.isEverything) with
  | [] => everything
  | [term] => term
  | terms => conjunction terms

/-- Some term of several. Terms that match nothing are left out. -/
def any (terms : List Predicate) : Predicate :=
  match terms.filter (fun term => !term.isNothing) with
  | [] => nothing
  | [term] => term
  | terms => disjunction terms

/-- The terms of a conjunction, or the predicate itself. -/
def conjuncts : Predicate → List Predicate
  | conjunction terms => terms
  | term => [term]

/-- The terms of a disjunction, or the predicate itself. -/
def disjuncts : Predicate → List Predicate
  | disjunction terms => terms
  | term => [term]

/-- Both predicates. -/
def and (left right : Predicate) : Predicate :=
  all (left.conjuncts ++ right.conjuncts)

/-- One of the predicates. -/
def or (left right : Predicate) : Predicate :=
  any (left.disjuncts ++ right.disjuncts)

/-- What the predicate does not match. -/
def not : Predicate → Predicate
  | everything => nothing
  | nothing => everything
  | negation term => term
  | term => negation term

end Predicate

end EntityStore
