import EntityStore.Entity.Update
import EntityStore.Proofs.Context.Overlay
import EntityStore.Proofs.Object.Lawful
import Mathlib.Data.List.Induction

/-! The records that a batch finds.
The records of the batch's identifiers are looked up once. Among several records that carry one
identifier the youngest counts, because records are found in the order of their identifiers and the
last entry of a table counts.
-/

namespace EntityStore

variable {context : Context}

/-- The record is of the entity type and carries a text in its identifying field. -/
def Carries (source : RecordSource) (type : EntityType) (text : String) (id : ObjectId) : Prop :=
  ∃ record field,
    source id = some record
    ∧ record.entity = type.name
    ∧ type.idField? = some field
    ∧ record.value? field.key = some (.string text)

/-- The identifier stands for the youngest record that carries the text. -/
def Resolves (context : Context) (type : EntityType) (text : String) (id : ObjectId) : Prop :=
  Carries context.record? type text id
  ∧ ∀ other, Carries context.record? type text other → other.rank ≤ id.rank

/-- A text resolves to one identifier at most. -/
theorem Resolves.unique {type : EntityType} {text : String} {a b : ObjectId}
    (left : Resolves context type text a) (right : Resolves context type text b)
    : a = b :=
  ObjectId.rank_inj (Nat.le_antisymm (right.2 a left.1) (left.2 b right.1))

/-- In a table of entries with ascending identifiers the greatest identifier of a key counts. -/
theorem Table.get?_ofList_ascending {entries : List (String × ObjectId)}
    (ascending : entries.Pairwise (fun a b => a.2.rank < b.2.rank)) {key : String} {id : ObjectId}
    : (Table.ofList entries).get? key = some id
      ↔ (key, id) ∈ entries ∧ ∀ other, (key, other) ∈ entries → other.rank ≤ id.rank := by
  induction entries using List.reverseRecOn with
  | nil => simp [Table.ofList]
  | append_singleton entries entry ih =>
      obtain ⟨shorter, _, before⟩ := List.pairwise_append.mp ascending
      obtain ⟨k, last⟩ := entry
      have step : Table.ofList (entries ++ [(k, last)]) = (Table.ofList entries).insert k last := by
        rw [Table.ofList, List.foldl_append]
        rfl
      have below {other : ObjectId} (inside : (key, other) ∈ entries) : other.rank < last.rank :=
        before _ inside _ List.mem_cons_self
      rw [step, Table.get?_insert]
      split
      · next same =>
          subst same
          simp only [Option.some.injEq, List.mem_append, List.mem_singleton, Prod.mk.injEq,
            true_and]
          constructor
          · intro same
            obtain rfl := same
            refine ⟨Or.inr rfl, ?_⟩
            intro other given
            rcases given with inside | rfl
            · exact Nat.le_of_lt (below inside)
            · exact Nat.le_refl _
          · intro given
            rcases given with ⟨inside | same, greatest⟩
            · have := greatest last (Or.inr rfl)
              have := below inside
              omega
            · exact same.symm
      · next other =>
          simp only [ih shorter, List.mem_append, List.mem_singleton, Prod.mk.injEq, other,
            false_and, or_false]

/-- A record passes the filter of identifiers by its first slot. -/
private theorem passes_of_value {source : RecordSource} {record : Record} {key text : String}
    {identifiers : List String} (plain : keyNames key = [key])
    (value : record.value? key = some (.string text))
    : (Predicate.compare key false (.isIn (identifiers.map .string))).evaluate source record = true
      ↔ text ∈ identifiers := by
  have first : firstReached? source key record = some (.string text) := by
    simp [firstReached?, reach, keyRelations, keyAttribute, plain, reachRecords, slots, value]
  have test : ∀ other : String, Value.looselyEquals (.string text) (.string other) = true
      ↔ text = other := by
    intro other
    simp only [Value.looselyEquals, Value.compare?, decide_eq_true_eq, Option.some.injEq]
    exact Std.LawfulEqCmp.compare_eq_iff_eq
  simp [Predicate.evaluate, first, Comparison.test, Comparison.holds, test]

/-- The entry of a record in the table of those that a batch finds. -/
private def carried? (key : String) (record : Record) : Option (String × ObjectId) := do
  return (← (← record.value? key).text?, record.id)

private theorem carried?_eq_some {key text : String} {record : Record} {id : ObjectId}
    : carried? key record = some (text, id)
      ↔ record.value? key = some (.string text) ∧ record.id = id := by
  cases value : record.value? key with
  | none => simp [carried?, value]
  | some stored =>
      cases stored with
      | string other => simp [carried?, value, Value.text?]
      | _ => simp [carried?, value, Value.text?]

/-- The identifiers that a batch finds are those that its texts resolve to. -/
theorem existing_get?_iff {type : EntityType} {field : Field}
    (identified : type.idField? = some field) (plain : keyNames field.key = [field.key])
    (keyed : Keyed context.record?) {identifiers : List String} {text : String} {id : ObjectId}
    : (Object.existing type field.key identifiers context).get? text = some id
      ↔ text ∈ identifiers ∧ Resolves context type text id := by
  let found : List Record :=
    context.matching type.name (.compare field.key false (.isIn (identifiers.map .string)))
  have listed (record : Record)
      : record ∈ found
        ↔ context.record? record.id = some record
          ∧ record.entity = type.name
          ∧ (Predicate.compare field.key false (.isIn (identifiers.map .string))).evaluate
              context.record? record
            = true := by
    simp only [found, Context.mem_matching_iff]
    refine and_congr_left (fun _ => ⟨?_, fun live => ⟨_, live⟩⟩)
    intro given
    obtain ⟨x, live⟩ := given
    rwa [keyed live]
  have entries (other : ObjectId)
      : (text, other) ∈ found.filterMap (carried? field.key)
        ↔ text ∈ identifiers ∧ Carries context.record? type text other := by
    simp only [List.mem_filterMap, carried?_eq_some]
    constructor
    · intro given
      obtain ⟨record, inside, value, rfl⟩ := given
      obtain ⟨live, typed, passes⟩ := (listed record).mp inside
      exact ⟨(passes_of_value plain value).mp passes, record, field, live, typed, identified, value⟩
    · intro carried
      obtain ⟨wanted, record, field', live, typed, identified', value⟩ := carried
      obtain rfl : field = field' := Option.some.inj (identified.symm.trans identified')
      refine ⟨record, (listed record).mpr ?_, value, keyed live⟩
      rw [keyed live]
      exact ⟨live, typed, (passes_of_value plain value).mpr wanted⟩
  have ascending : (found.filterMap (carried? field.key)).Pairwise (fun a b => a.2.rank < b.2.rank) := by
    have sorted : found.Pairwise (fun a b => a.id.rank < b.id.rank) :=
      (Context.live_ascending keyed).filter _
    refine sorted.filterMap _ (fun a b before x first y second => ?_)
    rw [← (carried?_eq_some.mp first).2, ← (carried?_eq_some.mp second).2]
    exact before
  have table : Object.existing type field.key identifiers context
      = Table.ofList (found.filterMap (carried? field.key)) := rfl
  rw [table, Table.get?_ofList_ascending ascending, entries]
  simp only [entries, Resolves]
  constructor
  · intro carried
    obtain ⟨⟨wanted, carries⟩, greatest⟩ := carried
    exact ⟨wanted, carries, fun other carries' => greatest other ⟨wanted, carries'⟩⟩
  · intro carried
    obtain ⟨wanted, carries, greatest⟩ := carried
    exact ⟨⟨wanted, carries⟩, fun other carries' => greatest other carries'.2⟩

end EntityStore
