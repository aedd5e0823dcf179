import EntityStore.Proofs.Batch.Lookup
import EntityStore.Proofs.Query.Sorting

/-! Comparisons that stand for several others.
A test that a slot passes exactly if it passes one of several tests can be replaced by these, one after the
other. This is so at the end of every path, whether it asks for the first slot or for any of them, and what is
fetched with such a test is what is fetched with one of the others.
-/

namespace EntityStore

variable {source : RecordSource} {record : Record} {whole : Comparison} {parts : List Comparison}

-----------------------------------------------------------------------------------------
-- Slots
-----------------------------------------------------------------------------------------

/-- A slot passes the test exactly if it passes one of the others. -/
def Comparison.Joins (whole : Comparison) (parts : List Comparison) : Prop :=
  ∀ slot, whole.test slot = parts.any (fun part => part.test slot)

namespace Comparison

/-- Being one of several values is being equal to one of them. -/
theorem isIn_joins (values : List Value) : (isIn values).Joins (values.map equals) := by
  intro slot
  rw [List.any_map]
  cases slot with
  | none => simp [test, Function.comp_def]
  | some value => rfl

/-- Being at least a value is coming after it or being equal to it. -/
theorem greaterThanOrEqual_joins (bound : Value)
    : (greaterThanOrEqual bound).Joins [greaterThan bound, equals bound] := by
  intro slot
  rw [List.any_cons, List.any_cons, List.any_nil, Bool.or_false]
  cases slot <;> rfl

/-- Being at most a value is coming before it or being equal to it. -/
theorem lessThanOrEqual_joins (bound : Value)
    : (lessThanOrEqual bound).Joins [lessThan bound, equals bound] := by
  intro slot
  rw [List.any_cons, List.any_cons, List.any_nil, Bool.or_false]
  cases slot <;> rfl

/-- Only the value that is false is equal to it, so that there is no other way to count as false than to be
that value or to be absent.
-/
theorem isFalse_joins : isFalse.Joins [equals (.bool false), isNil] := by
  intro slot
  rw [List.any_cons, List.any_cons, List.any_nil, Bool.or_false]
  cases slot with
  | none => rfl
  | some value =>
      cases value with
      | bool b => cases b <;> rfl
      | _ => rfl

/-- A value has one place only: it does not come before a value and after it, and where it is equal to the
value it does neither.
-/
theorem countP_order_le_one (bound : Value) (slot : Option Value)
    : [lessThan bound, equals bound, greaterThan bound].countP (fun part => part.test slot) ≤ 1 := by
  cases slot with
  | none => exact Nat.zero_le 1
  | some value =>
      have one (compared : Option Ordering)
          : [Ordering.lt, .eq, .gt].countP (fun order => compared = some order) ≤ 1 := by
        cases compared with
        | none => decide
        | some order => cases order <;> decide
      exact one (value.compare? bound)

end Comparison

-----------------------------------------------------------------------------------------
-- Paths
-----------------------------------------------------------------------------------------

/-- A slot that passes one of the tests is sought for each test in turn, or for all of them at once.
Witness: the first slot is the same one for every test, and any slot may be chosen before or after the test.
-/
theorem Comparison.Joins.evaluate (joins : whole.Joins parts) (source : RecordSource) (record : Record)
    (key : String) (anyOf : Bool)
    : (Predicate.compare key anyOf whole).evaluate source record
      = parts.any (fun part => (Predicate.compare key anyOf part).evaluate source record) := by
  have tests : whole.test = fun slot => parts.any (fun part => part.test slot) := funext joins
  simp only [Predicate.evaluate, tests]
  cases anyOf with
  | false => rfl
  | true =>
      simp only [if_true]
      rw [Bool.eq_iff_iff]
      simp only [List.any_eq_true]
      constructor
      · rintro ⟨slot, reached, part, listed, passes⟩
        exact ⟨part, listed, slot, reached, passes⟩
      · rintro ⟨part, listed, slot, reached, passes⟩
        exact ⟨slot, reached, part, listed, passes⟩

/-- What matches is what matches among the records of the entity, in their order. -/
theorem Context.matching_eq_filter (context : Context) (entity : String) (predicate : Predicate)
    : context.matching entity predicate
      = (context.matching entity .everything).filter (predicate.evaluate context.record?) := by
  simp only [matching, List.filter_filter, Predicate.evaluate, Bool.and_true]
  exact List.filter_congr (fun record _ => Bool.and_comm _ _)

/-- What one comparison finds is what several find together, at the end of every path. -/
structure Splits (whole : Comparison) (parts : List Comparison) : Prop where
  /-- Of one record. -/
  evaluate_iff
    : ∀ source record key anyOf,
        (Predicate.compare key anyOf whole).evaluate source record = true
        ↔ ∃ part ∈ parts, (Predicate.compare key anyOf part).evaluate source record = true
  /-- Of all records that a job sees. -/
  mem_matching_iff
    : ∀ (context : Context) entity key anyOf record,
        record ∈ context.matching entity (.compare key anyOf whole)
        ↔ ∃ part ∈ parts, record ∈ context.matching entity (.compare key anyOf part)
  /-- The same holds of what is fetched by sort keys, in whatever order, wherever sorting answers. -/
  mem_fetch_iff
    : ∀ (sorting : Sorting) (context : Context) entity key anyOf sort fetched record,
        context.fetch sorting entity (.compare key anyOf whole) sort = .ok fetched
        → (record ∈ fetched
          ↔ ∃ part ∈ parts, record ∈ context.matching entity (.compare key anyOf part))
  /-- Without sort keys each of them is fetched once, in the order of their creation, however many of the
  comparisons find it. -/
  fetch_eq
    : ∀ (sorting : Sorting) (context : Context) entity key anyOf,
        context.fetch sorting entity (.compare key anyOf whole) []
        = .ok ((context.matching entity .everything).filter (fun record =>
            parts.any (fun part => record ∈ context.matching entity (.compare key anyOf part))))

theorem Comparison.Joins.splits (joins : whole.Joins parts) : Splits whole parts := by
  have evaluate_iff (source : RecordSource) (record : Record) (key : String) (anyOf : Bool)
      : (Predicate.compare key anyOf whole).evaluate source record = true
        ↔ ∃ part ∈ parts, (Predicate.compare key anyOf part).evaluate source record = true := by
    rw [joins.evaluate, List.any_eq_true]
  have mem_matching_iff (context : Context) (entity key : String) (anyOf : Bool) (record : Record)
      : record ∈ context.matching entity (.compare key anyOf whole)
        ↔ ∃ part ∈ parts, record ∈ context.matching entity (.compare key anyOf part) := by
    simp only [Context.mem_matching_iff, evaluate_iff]
    constructor
    · rintro ⟨live, typed, part, listed, passes⟩
      exact ⟨part, listed, live, typed, passes⟩
    · rintro ⟨part, listed, live, typed, passes⟩
      exact ⟨live, typed, part, listed, passes⟩
  refine ⟨evaluate_iff, mem_matching_iff, ?_, fun sorting context entity key anyOf => ?_⟩
  · intro sorting context entity key anyOf sort fetched record answers
    rw [(sortRecords_perm answers).mem_iff, mem_matching_iff]
  rw [Context.fetch_nil, Context.matching_eq_filter]
  refine congrArg Except.ok (List.filter_congr (fun record inside => ?_))
  obtain ⟨live, typed, _⟩ := Context.mem_matching_iff.mp inside
  rw [joins.evaluate]
  refine List.any_congr rfl (fun part => ?_)
  rw [Bool.eq_iff_iff, decide_eq_true_iff, Context.mem_matching_iff]
  exact ⟨fun passes => ⟨live, typed, passes⟩, fun found => found.2.2⟩

/-- Comparisons with several parts are made part by part, on every path. A value is one of several exactly if it
is equal to one of them, and never one of none; it is at least or at most another one exactly if it is beyond it
or equal to it; and it counts as false exactly if it is false or absent. So fetching the records that carry one
of several identifiers fetches those that carry the one or the other. At the end of a path without lists a
record comes before a value, is equal to it or comes after it, and not two of these at once.
-/
theorem comparisons_split
    : (∀ values, Splits (.isIn values) (values.map .equals))
      ∧ (∀ source record key anyOf,
          (Predicate.compare key anyOf (.isIn [])).evaluate source record = false)
      ∧ (∀ bound, Splits (.greaterThanOrEqual bound) [.greaterThan bound, .equals bound])
      ∧ (∀ bound, Splits (.lessThanOrEqual bound) [.lessThan bound, .equals bound])
      ∧ Splits .isFalse [.equals (.bool false), .isNil]
      ∧ (∀ source record key bound,
          [Comparison.lessThan bound, .equals bound, .greaterThan bound].countP
              (fun part => (Predicate.compare key false part).evaluate source record)
            ≤ 1) := by
  refine ⟨fun values => (Comparison.isIn_joins values).splits, fun source record key anyOf => ?_,
    fun bound => (Comparison.greaterThanOrEqual_joins bound).splits,
    fun bound => (Comparison.lessThanOrEqual_joins bound).splits, Comparison.isFalse_joins.splits,
    fun source record key bound => ?_⟩
  · exact (Comparison.isIn_joins []).evaluate source record key anyOf
  · exact Comparison.countP_order_le_one bound (firstReached? source key record)

-- With a list at the end, one item may come before the value and another one after it.
example
    : let record := (Record.new ⟨1⟩ "Book").setValue "marks" (some (.list [.integer 1, .integer 3]))
      (Predicate.compare "marks" true (.lessThan (.integer 2))).evaluate (fun _ => none) record = true
      ∧ (Predicate.compare "marks" true (.greaterThan (.integer 2))).evaluate (fun _ => none) record
        = true := by
  decide +kernel

end EntityStore
