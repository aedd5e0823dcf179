import EntityStore.Proofs.Query.Sorting
import EntityStore.Query

/-! The meaning of combined predicates.
The combinators leave out, flatten and cancel what they can, and the predicate that they build matches the
records that the plain conjunction, disjunction or negation matches. So a query matches the records that match
every term it was given, in however many steps.
-/

namespace EntityStore

namespace Predicate

variable {source : RecordSource} {record : Record}

-----------------------------------------------------------------------------------------
-- Several terms
-----------------------------------------------------------------------------------------

theorem evaluateAll_eq (terms : List Predicate)
    : evaluateAll source record terms = terms.all (evaluate source record) := by
  induction terms with
  | nil => rfl
  | cons term terms ih => rw [evaluateAll, ih, List.all_cons]

theorem evaluateAny_eq (terms : List Predicate)
    : evaluateAny source record terms = terms.any (evaluate source record) := by
  induction terms with
  | nil => rfl
  | cons term terms ih => rw [evaluateAny, ih, List.any_cons]

theorem evaluate_of_isEverything {term : Predicate} (neutral : term.isEverything = true)
    : term.evaluate source record = true := by
  cases term <;> cases neutral
  rfl

theorem evaluate_of_isNothing {term : Predicate} (neutral : term.isNothing = true)
    : term.evaluate source record = false := by
  cases term <;> cases neutral
  rfl

/-- All terms together match what each of them matches. -/
theorem evaluate_all (terms : List Predicate)
    : (all terms).evaluate source record = terms.all (evaluate source record) := by
  have kept
      : (terms.filter (fun term => !term.isEverything)).all (evaluate source record)
        = terms.all (evaluate source record) := by
    rw [List.all_filter]
    refine List.all_congr rfl (fun term => ?_)
    cases neutral : term.isEverything with
    | true => rw [evaluate_of_isEverything neutral]; rfl
    | false => simp
  rw [← kept, all]
  split
  · next none => rw [none]; rfl
  · next single => rw [single, List.all_cons, List.all_nil, Bool.and_true]
  · exact evaluateAll_eq _

/-- Some term of several matches what one of them matches. -/
theorem evaluate_any (terms : List Predicate)
    : (any terms).evaluate source record = terms.any (evaluate source record) := by
  have kept
      : (terms.filter (fun term => !term.isNothing)).any (evaluate source record)
        = terms.any (evaluate source record) := by
    rw [List.any_filter]
    refine List.any_congr rfl (fun term => ?_)
    cases neutral : term.isNothing with
    | true => rw [evaluate_of_isNothing neutral]; rfl
    | false => simp
  rw [← kept, any]
  split
  · next none => rw [none]; rfl
  · next single => rw [single, List.any_cons, List.any_nil, Bool.or_false]
  · exact evaluateAny_eq _

-----------------------------------------------------------------------------------------
-- Two predicates and one
-----------------------------------------------------------------------------------------

theorem all_conjuncts (predicate : Predicate)
    : predicate.conjuncts.all (evaluate source record) = predicate.evaluate source record := by
  cases predicate with
  | conjunction terms => exact (evaluateAll_eq terms).symm
  | _ => exact Bool.and_true _

theorem any_disjuncts (predicate : Predicate)
    : predicate.disjuncts.any (evaluate source record) = predicate.evaluate source record := by
  cases predicate with
  | disjunction terms => exact (evaluateAny_eq terms).symm
  | _ => exact Bool.or_false _

/-- Both predicates match what each of them matches, though conjunctions become one. -/
theorem evaluate_and (left right : Predicate)
    : (left.and right).evaluate source record
      = (left.evaluate source record && right.evaluate source record) := by
  rw [Predicate.and, evaluate_all, List.all_append, all_conjuncts, all_conjuncts]

/-- One of the predicates matches what one of them matches, though disjunctions become one. -/
theorem evaluate_or (left right : Predicate)
    : (left.or right).evaluate source record
      = (left.evaluate source record || right.evaluate source record) := by
  rw [Predicate.or, evaluate_any, List.any_append, any_disjuncts, any_disjuncts]

/-- Negation matches what the predicate does not match, though negations cancel. -/
theorem evaluate_not (predicate : Predicate)
    : predicate.not.evaluate source record = !predicate.evaluate source record := by
  cases predicate with
  | negation term => rw [Predicate.not, evaluate, Bool.not_not]
  | _ => rfl

end Predicate

-----------------------------------------------------------------------------------------
-- Laws
-----------------------------------------------------------------------------------------

/-- The combinators mean conjunction, disjunction and negation, with the laws of these. -/
structure Boolean (holds : Predicate → Bool) : Prop where
  all : ∀ terms, holds (.all terms) = terms.all holds
  any : ∀ terms, holds (.any terms) = terms.any holds
  and : ∀ left right : Predicate, holds (left.and right) = (holds left && holds right)
  or : ∀ left right : Predicate, holds (left.or right) = (holds left || holds right)
  not : ∀ term : Predicate, holds term.not = !holds term
  not_all : ∀ terms, holds (Predicate.all terms).not = holds (.any (terms.map Predicate.not))
  not_any : ∀ terms, holds (Predicate.any terms).not = holds (.all (terms.map Predicate.not))
  not_and : ∀ left right : Predicate, holds (left.and right).not = holds (left.not.or right.not)
  not_or : ∀ left right : Predicate, holds (left.or right).not = holds (left.not.and right.not)
  not_not : ∀ term : Predicate, holds term.not.not = holds term
  all_nil : holds (.all []) = true
  any_nil : holds (.any []) = false
  and_all_nil : ∀ term : Predicate, holds (term.and (.all [])) = holds term
  or_any_nil : ∀ term : Predicate, holds (term.or (.any [])) = holds term

theorem Predicate.evaluate_boolean (source : RecordSource) (record : Record)
    : Boolean (evaluate source record) where
  all := evaluate_all
  any := evaluate_any
  and := evaluate_and
  or := evaluate_or
  not := evaluate_not
  not_all terms := by
    simp only [evaluate_not, evaluate_all, evaluate_any, List.any_map, List.not_all_eq_any_not,
      Function.comp_def]
  not_any terms := by
    simp only [evaluate_not, evaluate_all, evaluate_any, List.all_map, List.not_any_eq_all_not,
      Function.comp_def]
  not_and left right := by
    rw [evaluate_not, evaluate_and, evaluate_or, evaluate_not, evaluate_not, Bool.not_and]
  not_or left right := by
    rw [evaluate_not, evaluate_or, evaluate_and, evaluate_not, evaluate_not, Bool.not_or]
  not_not term := by rw [evaluate_not, evaluate_not, Bool.not_not]
  all_nil := rfl
  any_nil := rfl
  and_all_nil term := by rw [evaluate_and, evaluate_all, List.all_nil, Bool.and_true]
  or_any_nil term := by rw [evaluate_or, evaluate_any, List.any_nil, Bool.or_false]

-----------------------------------------------------------------------------------------
-- Queries
-----------------------------------------------------------------------------------------

namespace QuerySpec

/-- A step of declaring a query. -/
inductive Step where
  | filter (terms : Collected Predicate)
  | sort (keys : Collected SortDescriptor)

/-- The filter terms that a step adds. -/
def Step.terms : Step → List Predicate
  | filter terms => terms.toList
  | sort _ => []

/-- The declaration with one more step. -/
def next (spec : QuerySpec) : Step → QuerySpec
  | .filter terms => spec.filterBy terms
  | .sort keys => spec.sortBy keys

/-- The declaration that is built step by step. -/
def ofSteps (steps : List Step) : QuerySpec :=
  steps.foldl next new

/-- A step adds its terms behind those that are there. -/
theorem filter_next (spec : QuerySpec) (step : Step)
    : (spec.next step).filter = spec.filter ++ step.terms := by
  cases step with
  | filter terms => rfl
  | sort keys => exact (List.append_nil _).symm

/-- The terms of a declaration are those of its steps. -/
theorem filter_ofSteps (steps : List Step) : (ofSteps steps).filter = steps.flatMap Step.terms := by
  have folded (steps : List Step) (spec : QuerySpec)
      : (steps.foldl next spec).filter = spec.filter ++ steps.flatMap Step.terms := by
    induction steps generalizing spec with
    | nil => exact (List.append_nil _).symm
    | cons step steps ih => rw [List.foldl_cons, ih, filter_next, List.flatMap_cons, List.append_assoc]
  exact folded steps new

end QuerySpec

/-- The combinators keep the meaning of what they simplify. The filter of a query that is given several terms,
at once or step by step between sort keys, matches the records that match every term. The query finds those of
them that are live and of its entity, and no other way to sort them finds others.
-/
theorem combinators_keep_meaning
    : (∀ source record, Boolean (Predicate.evaluate source record))
      ∧ (∀ model entity terms sort source record,
          (Query.ofTerms model entity terms sort).filter.evaluate source record = true
          ↔ ∀ term ∈ terms, term.evaluate source record = true)
      ∧ (∀ model entity steps source record,
          ((QuerySpec.ofSteps steps).query model entity).filter.evaluate source record = true
          ↔ ∀ step ∈ steps, ∀ term ∈ step.terms, term.evaluate source record = true)
      ∧ (∀ (query : Query) (context : Context) (record : Record),
          record ∈ context.matching query.entityName query.filter
          ↔ (∃ id, context.record? id = some record)
            ∧ record.entity = query.entityName
            ∧ query.filter.evaluate context.record? record = true)
      ∧ (∀ (query : Query) (sorting : Sorting) (context : Context) (records : List Record),
          query.records sorting context = .ok records
          → ∀ record,
              record ∈ records
              ↔ (∃ id, context.record? id = some record)
                ∧ record.entity = query.entityName
                ∧ query.filter.evaluate context.record? record = true) := by
  have ofTerms (model : Model) (entity : String) (terms : List Predicate) (sort : List SortDescriptor)
      (source : RecordSource) (record : Record)
      : (Query.ofTerms model entity terms sort).filter.evaluate source record = true
        ↔ ∀ term ∈ terms, term.evaluate source record = true := by
    rw [Query.ofTerms, Predicate.evaluate_all, List.all_eq_true]
  refine ⟨Predicate.evaluate_boolean, ofTerms, ?_, fun _ _ _ => Context.mem_matching_iff,
    fun _ _ _ _ answers _ => Context.mem_fetch_iff answers⟩
  intro model entity steps source record
  rw [QuerySpec.query, ofTerms, QuerySpec.filter_ofSteps]
  simp only [List.mem_flatMap]
  exact ⟨fun given step listed term inside => given term ⟨step, listed, inside⟩,
    fun given term ⟨step, listed, inside⟩ => given step listed term inside⟩

end EntityStore
