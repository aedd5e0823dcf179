import EntityStore.Proofs.Forest.Basic
import EntityStore.Proofs.Mapping.Circular
import EntityStore.Proofs.Store.Survival

/-! What an answer depends on.
A query looks at the records of its entity and at what is found along relations from there. Contexts with
the same records there give the same answer, whatever else they hold: filters and sort keys follow
relations, and so does a mapping. Only the depth that a context grants depends on everything it holds, and
a mapping that ends has not used it up.
-/

namespace EntityStore

/-- A record of the entity reaches the identifier. -/
def Concerns (source : RecordSource) (entity : String) (id : ObjectId) : Prop :=
  ∃ root record, source root = some record ∧ record.entity = entity ∧ Reaches source root id

/-- The sources differ only where neither of them has a record of the entity that leads there. -/
def Unrelated (entity : String) (before after : RecordSource) : Prop :=
  ∀ id, before id ≠ after id → ¬ Concerns before entity id ∧ ¬ Concerns after entity id

/-- The sources have the same records wherever the relations of a record lead. -/
def Alike (source other : RecordSource) (record : Record) : Prop :=
  ∀ key, ∀ member ∈ record.related key, ∀ x, Reaches source member x → other x = source x

variable {source other : RecordSource} {record : Record}

namespace Unrelated

variable {entity : String} (unrelated : Unrelated entity source other)
include unrelated

/-- What a record of the entity reaches stays. -/
theorem eq_of_concerns {id : ObjectId} (concerns : Concerns source entity id)
    : other id = source id := by
  by_contra differ
  exact (unrelated id (Ne.symm differ)).1 concerns

/-- The records of the entity stay. -/
theorem get?_iff {id : ObjectId} (typed : record.entity = entity)
    : source id = some record ↔ other id = some record := by
  constructor
  · intro found
    exact (unrelated.eq_of_concerns ⟨id, record, found, typed, .refl⟩).trans found
  · intro found
    by_contra differ
    refine (unrelated id (fun same => differ (same.trans found))).2 ?_
    exact ⟨id, record, found, typed, .refl⟩

/-- Everything that a record of the entity leads to stays. -/
theorem alike {id : ObjectId} (found : source id = some record) (typed : record.entity = entity)
    : Alike source other record := by
  intro key member inside x path
  exact unrelated.eq_of_concerns
    ⟨id, record, found, typed, .head ⟨key, record, found, inside⟩ path⟩

end Unrelated

/-- An identifier that no relation holds is of interest to its own entity alone. -/
theorem Unheld.not_concerns {entity : String} {id : ObjectId} (unheld : Unheld source id)
    (typed : ∀ record, source id = some record → record.entity ≠ entity)
    : ¬ Concerns source entity id := by
  rintro ⟨root, record, found, same, path⟩
  rcases Relation.ReflTransGen.cases_tail path with rfl | ⟨owner, _, link⟩
  · exact typed record found same
  · exact unheld owner link

namespace Alike

variable (alike : Alike source other record)
include alike

theorem member {key : String} {id : ObjectId} (inside : id ∈ record.related key)
    : other id = source id :=
  alike key id inside id .refl

/-- A record that is found along a relation leads nowhere else. -/
theorem next {key : String} {id : ObjectId} {member : Record} (inside : id ∈ record.related key)
    (found : source id = some member)
    : Alike source other member := by
  intro further id' inside' x path
  exact alike key id inside x (.head ⟨further, member, found, inside'⟩ path)

end Alike

-----------------------------------------------------------------------------------------
-- Filters
-----------------------------------------------------------------------------------------

/-- Relations reach the same records.
Witness: induction on the relations; what the first one leads to leads to the same records.
-/
theorem reachRecords_local (relations : List String) {records : List Record}
    (alike : ∀ record ∈ records, Alike source other record)
    : reachRecords other relations records = reachRecords source relations records := by
  induction relations generalizing records with
  | nil => rfl
  | cons relation relations ih =>
      have first : records.flatMap (fun record => (record.related relation).filterMap other)
          = records.flatMap (fun record => (record.related relation).filterMap source) := by
        refine List.flatMap_congr (fun record listed => ?_)
        exact List.filterMap_congr (fun id inside => (alike record listed).member inside)
      rw [reachRecords, reachRecords, first]
      refine ih (fun next listed => ?_)
      obtain ⟨record, inside, member⟩ := List.mem_flatMap.mp listed
      obtain ⟨id, related, found⟩ := List.mem_filterMap.mp member
      exact (alike record inside).next related found

theorem reach_local (alike : Alike source other record) (key : String)
    : reach other key record = reach source key record := by
  unfold reach
  rw [reachRecords_local _ (fun _ listed => List.mem_singleton.mp listed ▸ alike)]

theorem firstReached?_local (alike : Alike source other record) (key : String)
    : firstReached? other key record = firstReached? source key record := by
  rw [firstReached?, firstReached?, reach_local alike]

mutual
/-- A record matches in both sources or in none. -/
theorem evaluate_local (alike : Alike source other record) (predicate : Predicate)
    : predicate.evaluate other record = predicate.evaluate source record := by
  cases predicate with
  | everything => rfl
  | nothing => rfl
  | compare key anyOf comparison =>
      rw [Predicate.evaluate, Predicate.evaluate, reach_local alike, firstReached?_local alike]
  | conjunction terms => exact evaluateAll_local alike terms
  | disjunction terms => exact evaluateAny_local alike terms
  | negation term => exact congrArg (! ·) (evaluate_local alike term)
termination_by structural predicate

theorem evaluateAll_local (alike : Alike source other record) (terms : List Predicate)
    : Predicate.evaluateAll other record terms = Predicate.evaluateAll source record terms := by
  cases terms with
  | nil => rfl
  | cons term terms =>
      rw [Predicate.evaluateAll, Predicate.evaluateAll, evaluate_local alike term,
        evaluateAll_local alike terms]
termination_by structural terms

theorem evaluateAny_local (alike : Alike source other record) (terms : List Predicate)
    : Predicate.evaluateAny other record terms = Predicate.evaluateAny source record terms := by
  cases terms with
  | nil => rfl
  | cons term terms =>
      rw [Predicate.evaluateAny, Predicate.evaluateAny, evaluate_local alike term,
        evaluateAny_local alike terms]
termination_by structural terms
end

-----------------------------------------------------------------------------------------
-- Sorting
-----------------------------------------------------------------------------------------

/-- The sort keys tell two records apart in both sources or in none. -/
theorem compareBy_local {left right : Record} (first : Alike source other left)
    (second : Alike source other right) (sort : List SortDescriptor)
    : compareBy other sort left right = compareBy source sort left right := by
  induction sort with
  | nil => rfl
  | cons descriptor sort ih =>
      rw [compareBy, compareBy, ih, SortDescriptor.compare, SortDescriptor.compare,
        firstReached?_local first, firstReached?_local second]

-----------------------------------------------------------------------------------------
-- Records that match
-----------------------------------------------------------------------------------------

/-- Tables that agree on the values of a kind list the same values of that kind. -/
theorem Table.filter_values_congr {α : Type} {table table' : Table ObjectId α} {kind : α → Bool}
    (same : ∀ key value, kind value = true → (table.get? key = some value ↔ table'.get? key = some value))
    : table.values.filter kind = table'.values.filter kind := by
  have ascending (table : Table ObjectId α)
      : Ascending (table.entries.filter (kind ∘ (·.2))) :=
    table.ascending.sublist List.filter_sublist
  rw [Table.values, Table.values, List.filter_map, List.filter_map]
  refine congrArg (List.map (·.2)) (Entries.ext_find? (ascending table) (ascending table') ?_)
  intro key
  refine Option.ext (fun value => ?_)
  rw [Entries.find?_eq_some_iff (ascending table), Entries.find?_eq_some_iff (ascending table'),
    List.mem_filter, List.mem_filter, ← Table.get?_eq_some_iff, ← Table.get?_eq_some_iff]
  exact and_congr_left (same key value)

/-- The same records match, in the same order. -/
theorem Context.fetch_local {before after : Context} {entity : String}
    (unrelated : Unrelated entity before.record? after.record?) (sorting : Sorting)
    (predicate : Predicate) (sort : List SortDescriptor)
    : after.fetch sorting entity predicate sort = before.fetch sorting entity predicate sort := by
  have typed : after.live.filter (·.entity = entity) = before.live.filter (·.entity = entity) := by
    refine Table.filter_values_congr (fun id record typed => ?_)
    rw [get?_view, get?_view]
    exact (unrelated.get?_iff (of_decide_eq_true typed)).symm
  have alike {record : Record} (listed : record ∈ before.live.filter (·.entity = entity))
      : Alike before.record? after.record? record := by
    obtain ⟨live, typed⟩ := List.mem_filter.mp listed
    obtain ⟨id, found⟩ := mem_live_iff.mp live
    exact unrelated.alike found (of_decide_eq_true typed)
  have matching (context : Context)
      : context.matching entity predicate
        = (context.live.filter (·.entity = entity)).filter
            (fun record => predicate.evaluate context.record? record) := by
    rw [Context.matching, List.filter_filter]
    exact List.filter_congr (fun _ _ => Bool.and_comm _ _)
  have same : (before.live.filter (·.entity = entity)).filter
        (fun record => predicate.evaluate after.record? record)
      = (before.live.filter (·.entity = entity)).filter
          (fun record => predicate.evaluate before.record? record) :=
    List.filter_congr (fun record listed => evaluate_local (alike listed) predicate)
  rw [fetch, fetch, matching, matching, typed, same]
  refine sortRecords_congr (fun left first right second => ?_)
  exact compareBy_local (alike (List.mem_filter.mp first).1) (alike (List.mem_filter.mp second).1) sort

-----------------------------------------------------------------------------------------
-- Mappings
-----------------------------------------------------------------------------------------

namespace Mapping

variable {model : Model} {map map' : String → Record → Mapping Object}

/-- Members that are found alike and mapped alike make the same objects. -/
theorem many_congr {read read' : Record → Mapping Object} {ids : List ObjectId}
    (found : ∀ id ∈ ids, other id = source id)
    (same : ∀ id ∈ ids, ∀ member, source id = some member → read' member = read member)
    : many other read' ids = many source read ids := by
  induction ids with
  | nil => rfl
  | cons id ids ih =>
      obtain ⟨first, later⟩ := List.forall_mem_cons.mp found
      obtain ⟨here, rest⟩ := List.forall_mem_cons.mp same
      have member : member? other read' id = member? source read id := by
        rw [member?, member?, first]
        cases own : source id with
        | none => rfl
        | some member => exact congrArg Mapping.object? (here member own)
      rw [many, many, member, ih later rest]

variable (alike : Alike source other record)
  (same
    : ∀ key, ∀ id ∈ record.related key, ∀ member,
        source id = some member → ∀ entity, map' entity member = map entity member)
include alike same

theorem content_congr (owner : String) (field : Field)
    : content other map' owner record field = content source map owner record field := by
  have objects (entity : String) {ids : List ObjectId} (part : ids ⊆ record.related field.key)
      : many other (map' entity) ids = many source (map entity) ids :=
    many_congr (fun id inside => alike.member (part inside))
      (fun id inside member found => same field.key id (part inside) member found entity)
  have one (entity : String)
      : required other (map' entity) owner field.key record
        = required source (map entity) owner field.key record := by
    unfold required
    cases related : record.related field.key with
    | nil => rfl
    | cons id ids =>
        have inside : id ∈ record.related field.key := related ▸ List.mem_cons_self
        dsimp only
        rw [alike.member inside]
        cases found : source id with
        | none => rfl
        | some member => exact same field.key id inside member found entity
  unfold content optional
  simp only [one, objects _ (List.Subset.refl _), objects _ (List.take_subset _ _)]

theorem contents_congr (owner : String) (fields : List Field)
    : contents other map' owner record fields = contents source map owner record fields := by
  induction fields with
  | nil => rfl
  | cons field fields ih => rw [contents, contents, content_congr alike same, ih]

omit alike same

/-- A record is mapped alike within some depth.
Witness: induction on the depth; members lead nowhere else.
-/
theorem ofRecordWithin_local (alike : Alike source other record) (depth : Nat) (entity : String)
    : ofRecordWithin model other depth entity record
      = ofRecordWithin model source depth entity record := by
  induction depth generalizing entity record with
  | zero => rfl
  | succ depth ih =>
      have same (owner : String) (fields : List Field)
          : contents other (ofRecordWithin model other depth) owner record fields
            = contents source (ofRecordWithin model source depth) owner record fields :=
        contents_congr alike
          (fun _ _ inside _ found entity => ih (alike.next inside found) entity) owner fields
      rw [ofRecordWithin, ofRecordWithin, same]

end Mapping

/-- A mapping that ends in one context ends in the other one with the same result.
Witness: what ends is straight, and ends within the depth that the other context grants; more depth changes
nothing any more.
-/
theorem Context.map_local {before after : Context} {model : Model} {entity : String}
    (alike : Alike before.record? after.record? record) {result : Except MappingError Object}
    (ends : (before.map model entity record).run = .ok result)
    : after.map model entity record = before.map model entity record := by
  have goes {context : Context} {result : Except MappingError Object}
      (ends : (context.map model entity record).run = .ok result)
      : context.map model entity record ≠ Mapping.endless := by
    intro used
    rw [used] at ends
    cases ends
  have within : Mapping.ofRecordWithin model after.record? (before.mappingDepth model) entity record
      = before.map model entity record :=
    Mapping.ofRecordWithin_local alike _ entity
  have straight : Mapping.Straight model after.record? (entity, record) := by
    rw [← within] at ends
    exact Mapping.straight_of_ends ends
  obtain ⟨_, ends'⟩ := straight.map_isOk
  rcases Nat.le_total (before.mappingDepth model) (after.mappingDepth model) with more | less
  · rw [← within]
    exact Mapping.ofRecordWithin_of_deeper more (within ▸ goes ends)
  · rw [← within]
    exact (Mapping.ofRecordWithin_of_deeper less (goes ends')).symm

-----------------------------------------------------------------------------------------
-- Answers
-----------------------------------------------------------------------------------------

/-- A query answers the same where the contexts differ only in what has nothing to do with its entity. -/
theorem Query.answer_local {query : Query} {sorting : Sorting} {before after : Context}
    {objects : List Object} (unrelated : Unrelated query.entityName before.record? after.record?)
    (fetches : query.answer sorting before = .ok objects)
    : query.answer sorting after = .ok objects := by
  obtain ⟨records, sorted, answers⟩ := Mapping.attempt_bind_eq_ok_iff.mp fetches
  have alike : ∀ record ∈ records, Alike before.record? after.record? record := by
    intro record listed
    obtain ⟨⟨id, found⟩, typed, _⟩ := (Context.mem_fetch_iff sorted).mp listed
    exact unrelated.alike found typed
  have same : query.records sorting after = .ok records :=
    (Context.fetch_local unrelated sorting query.filter query.sort).trans sorted
  refine Mapping.attempt_bind_eq_ok_iff.mpr ⟨records, same, ?_⟩
  clear fetches sorted same
  induction records generalizing objects with
  | nil => exact answers
  | cons record records ih =>
      obtain ⟨own, others⟩ := List.forall_mem_cons.mp alike
      obtain ⟨object?, here, later⟩ := Mapping.attempt_bind_eq_ok_iff.mp answers
      obtain ⟨rest, answered, made⟩ := Mapping.attempt_bind_eq_ok_iff.mp later
      obtain ⟨result, ends, _⟩ := Mapping.attempt_bind_eq_ok_iff.mp here
      refine Mapping.attempt_bind_eq_ok_iff.mpr ⟨object?, ?_, ?_⟩
      · rw [Context.map_local own ends]
        exact here
      · exact Mapping.attempt_bind_eq_ok_iff.mpr ⟨rest, ih answered others, made⟩

end EntityStore
