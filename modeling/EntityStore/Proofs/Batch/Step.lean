import EntityStore.Proofs.Batch.Upsert
import EntityStore.Proofs.Object.Identity

/-! What one object of a batch does to the others.
Objects of a batch have different identifiers, so no two of them are written to one record. A record
that stands in none of the trees that are written stays as it is; where a type does not reach itself,
that is every record of the type but the written one.
-/

namespace EntityStore

variable {types model : Model} {context before middle after : Context} {type : EntityType}
  {text : String} {id x : ObjectId}

namespace Carries

variable {source other : RecordSource}

/-- A record carries one text at most. -/
theorem unique {a b : String} (left : Carries source type a id) (right : Carries source type b id)
    : a = b := by
  obtain ⟨record, field, found, _, identified, value⟩ := left
  obtain ⟨record', field', found', _, identified', value'⟩ := right
  obtain rfl : record = record' := Option.some.inj (found.symm.trans found')
  obtain rfl : field = field' := Option.some.inj (identified.symm.trans identified')
  rw [value] at value'
  simpa using value'

theorem congr (same : other id = source id) (carries : Carries source type text id)
    : Carries other type text id := by
  obtain ⟨record, field, found, rest⟩ := carries
  exact ⟨record, field, same.trans found, rest⟩

theorem live (carries : Carries source type text id)
    : ∃ record, source id = some record ∧ record.entity = type.name := by
  obtain ⟨record, _, found, typed, _⟩ := carries
  exact ⟨record, found, typed⟩

end Carries

/-- An object that fits an identifiable type has its identifier. -/
theorem Model.Lawful.identity (lawful : model.Lawful types) (inside : type ∈ model.entities)
    (identifiable : type.isIdentifiable = true) {object : Object}
    (fits : object.fits model type = true)
    : object.identity? (model.entity type.name) = some (type.identifier object) := by
  have same := lawful.named type inside
  obtain ⟨text, identity⟩ := Object.exists_identity lawful (lawful.knows inside)
    (by rwa [same]) (by rwa [same])
  rw [EntityType.identifier, ← same, model.entity_name, identity, Option.getD_some]

/-- The record of a stored object carries the identifier that the object was written with. -/
theorem Model.Lawful.carries (lawful : model.Lawful types) (inside : type ∈ model.entities)
    (identifiable : type.isIdentifiable = true) {object read : Object}
    (fits : object.fits model type = true) (back : Object.ReadsBack model type.name object read)
    {source : RecordSource} (stored : Object.Stored model source type.name read id)
    : Carries source type (type.identifier object) id := by
  have known := lawful.knows inside
  have carries := stored.carries lawful known
    (back.identity lawful known (lawful.identity inside identifiable fits))
  rwa [lawful.named type inside] at carries

/-- What is below a record is of a type that the record's type refers to, at last. -/
theorem Forest.refers_of_below (lawful : model.Lawful types) (forest : Forest types context)
    {record : Record} (path : Below context.record? id x)
    (found : context.record? id = some record) (known : model.Knows record.entity)
    : ∃ member,
        context.record? x = some member
        ∧ model.Knows member.entity
        ∧ Relation.TransGen model.Refers record.entity member.entity := by
  have step {owner member : ObjectId} {record : Record} (link : Linked context.record? owner member)
      (found : context.record? owner = some record) (known : model.Knows record.entity)
      : ∃ record',
          context.record? member = some record'
          ∧ model.Knows record'.entity
          ∧ model.Refers record.entity record'.entity := by
    obtain ⟨key, record', found', held⟩ := link
    obtain rfl : record = record' := Option.some.inj (found.symm.trans found')
    obtain ⟨field, listed, _, target, kind, member', live, rfl⟩ := forest.declared found held
    rw [lawful.entity_eq known] at listed
    exact ⟨member', live, (lawful.reference known listed kind).2.1, field, listed, kind⟩
  induction path with
  | single link =>
      obtain ⟨member, live, known', refers⟩ := step link found known
      exact ⟨member, live, known', .single refers⟩
  | tail _ link ih =>
      obtain ⟨owner, live, known', way⟩ := ih
      obtain ⟨member, live', known'', refers⟩ := step link live known'
      exact ⟨member, live', known'', way.tail refers⟩

/-- Two records of a type that does not reach itself are not nested. -/
theorem Forest.eq_of_reaches (lawful : model.Lawful types) (forest : Forest types context)
    (inside : type ∈ model.entities)
    (apart : ¬ Relation.TransGen model.Refers type.name type.name)
    (upper : ∃ record, context.record? id = some record ∧ record.entity = type.name)
    (lower : ∃ record, context.record? x = some record ∧ record.entity = type.name)
    (path : Reaches context.record? id x)
    : x = id := by
  obtain ⟨record, found, typed⟩ := upper
  obtain ⟨other, present, typed'⟩ := lower
  rcases Relation.reflTransGen_iff_eq_or_transGen.mp path with same | below
  · exact same
  · obtain ⟨member, present', _, way⟩ :=
      forest.refers_of_below lawful below found (typed ▸ lawful.knows inside)
    obtain rfl : other = member := Option.some.inj (present.symm.trans present')
    rw [typed, typed'] at way
    exact absurd way apart

/-- A record that is in the tree of none of the known records stays as it is. -/
theorem Upserts.frame {objects : List Object} {known : Table String ObjectId}
    (upserts : Upserts types model type objects known before after) (forest : Forest types before)
    (distinct : (objects.map type.identifier).Nodup) (old : x.rank < before.nextId.toNat)
    (untouched
      : ∀ text ∈ objects.map type.identifier, ∀ id,
          known.get? text = some id → ¬ Reaches before.record? id x)
    : after.record? x = before.record? x := by
  induction upserts with
  | nil => rfl
  | @updated object objects known id before middle after found written _ _ ih =>
      rw [List.map_cons, List.nodup_cons] at distinct
      have same : middle.record? x = before.record? x :=
        written.confined.frame old (untouched _ List.mem_cons_self id found)
      refine (ih written.forest distinct.2 (Nat.lt_of_lt_of_le old written.confined.nextId_le)
        (fun text listed other found' path => ?_)).trans same
      exact untouched text (List.mem_cons_of_mem _ listed) other found'
        (written.confined.reaches forest old path)
  | @added object objects known id before middle after _ added _ _ ih =>
      rw [List.map_cons, List.nodup_cons] at distinct
      have same : middle.record? x = before.record? x := added.confined.frame old (fun nothing => nothing)
      refine (ih added.forest distinct.2 (Nat.lt_of_lt_of_le old added.confined.nextId_le)
        (fun text listed other found' path => ?_)).trans same
      have apart : text ≠ type.identifier object := fun same => distinct.1 (same ▸ listed)
      rw [Table.get?_insert, if_neg apart] at found'
      exact untouched text (List.mem_cons_of_mem _ listed) other found'
        (added.confined.reaches forest old path)

end EntityStore
