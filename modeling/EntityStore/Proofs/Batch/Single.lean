import EntityStore.Proofs.Batch.Step
import EntityStore.Proofs.Write.Basic

/-! Upserting one object.
The object goes to the record that its identifier resolves to, or to a new one. Where its type does not
reach itself the other records of the type are out of its way, so what other identifiers resolve to stays,
and what the batch knows is current for the next object.
-/

namespace EntityStore

variable {types model : Model} {before after : Context} {type : EntityType} {object : Object}
  {objects : List Object} {known : Table String ObjectId} {text : String} {id x : ObjectId}

/-- What is known of the texts is what they resolve to. -/
def Current (type : EntityType) (texts : List String) (known : Table String ObjectId)
    (context : Context)
    : Prop :=
  ∀ text ∈ texts, ∀ id, known.get? text = some id ↔ Resolves context type text id

/-- What a batch finds is current. -/
theorem found_current (lawful : model.Lawful types) (inside : type ∈ model.entities)
    (identifiable : type.isIdentifiable = true) (keyed : Keyed before.record?)
    (objects : List Object)
    : Current type (objects.map type.identifier) (type.found objects before) before := by
  intro text named id
  rw [found_get?_iff lawful inside identifiable keyed]
  exact and_iff_right named

/-- The context after an object was written over the record that its identifier resolves to, or to a new
record where there is none.
-/
structure Upserted (types model : Model) (type : EntityType) (object : Object) (before : Context)
    (id : ObjectId) (after : Context)
    : Prop where
  forest : Forest types after
  confined : Confined types (Reaches before.record? id) before after
  breeds : Breeds model type.name id before after
  carried
    : ∀ {record},
        before.record? id = some record
        → Carries before.record? type (type.identifier object) id
  greatest
    : ∀ {x}, Carries before.record? type (type.identifier object) x → x.rank ≤ id.rank
  chosen : ∀ {x}, Resolves before type (type.identifier object) x → x = id
  result
    : ∃ read,
        Object.ReadsBack model type.name object read
        ∧ Object.Stored model after.record? type.name read id

/-- An object that is written over the record that its identifier resolves to is upserted. -/
theorem Upserted.of_written (resolves : Resolves before type (type.identifier object) id)
    (written : Written types model type.name object id before after)
    (breeds : Breeds model type.name id before after)
    : Upserted types model type object before id after := by
  obtain ⟨record, live, _⟩ := resolves.1.live
  exact {
    forest := written.forest
    confined := written.confined
    breeds
    carried := fun _ => resolves.1
    greatest := fun carries => resolves.2 _ carries
    chosen := fun other => other.unique resolves
    result := written.result live }

/-- An object that is added where its identifier resolves to nothing is upserted. -/
theorem Upserted.of_added (forest : Forest types before)
    (missing : ∀ x, ¬ Resolves before type (type.identifier object) x)
    (added : Added types model type.name object before id after)
    (breeds : Breeds model type.name id before after)
    : Upserted types model type object before id after where
  forest := added.forest
  confined := added.confined.mono (fun _ _ nothing => nothing.elim)
  breeds
  carried := fun found => by
    have := forest.bounded found
    have := added.unborn
    omega
  greatest := fun carries => by
    obtain ⟨record, live, _⟩ := carries.live
    have := forest.bounded live
    have := added.unborn
    omega
  chosen := fun other => absurd other (missing _)
  result := added.result

/-- Where what is known is current, a batch upserts its first object, for which it knows the record then,
and after that the others.
-/
theorem Upserts.uncons
    (upserts : Upserts types model type (object :: objects) known before after)
    (forest : Forest types before)
    (current : ∀ id,
        known.get? (type.identifier object) = some id
        ↔ Resolves before type (type.identifier object) id)
    : ∃ id middle known',
        Upserted types model type object before id middle
        ∧ Upserts types model type objects known' middle after
        ∧ ∀ text,
            known'.get? text
            = if text = type.identifier object then some id else known.get? text := by
  cases upserts with
  | @updated _ _ _ id _ middle _ found written breeds later =>
      refine ⟨id, middle, known, .of_written ((current id).mp found) written breeds, later, ?_⟩
      intro text
      split
      · next own => exact own ▸ found
      · rfl
  | @added _ _ _ id _ middle _ missing added breeds later =>
      refine ⟨id, middle, known.insert (type.identifier object) id,
        .of_added forest (fun x resolves => ?_) added breeds, later,
        fun text => Table.get?_insert known _ text id⟩
      rw [(current x).mpr resolves] at missing
      contradiction

section Step

variable (lawful : model.Lawful types) (inside : type ∈ model.entities)
  (apart : ¬ Relation.TransGen model.Refers type.name type.name)
  (forest : Forest types before) (step : Upserted types model type object before id after)
include lawful inside apart forest step

/-- The other records of the type stay as they are. -/
theorem Upserted.same (other : x ≠ id)
    (typed : ∃ record, before.record? x = some record ∧ record.entity = type.name)
    : after.record? x = before.record? x := by
  obtain ⟨record, found, kind⟩ := typed
  refine step.confined.frame (forest.bounded found) (fun path => other ?_)
  obtain ⟨_, live⟩ := path.root_live ⟨record, found⟩
  exact forest.eq_of_reaches lawful inside apart (step.carried live).live ⟨record, found, kind⟩ path

omit lawful inside forest in
/-- No other record of the type is new. -/
theorem Upserted.older (other : x ≠ id)
    (typed : ∃ record, after.record? x = some record ∧ record.entity = type.name)
    : ∃ record, before.record? x = some record ∧ record.entity = type.name := by
  obtain ⟨record', found, typed⟩ := typed
  rcases Nat.lt_or_ge x.rank before.nextId.toNat with old | new
  · obtain ⟨record, present, same⟩ := step.confined.survivor old found
    exact ⟨record, present, same.symm.trans typed⟩
  · have way := step.breeds other new found
    rw [typed] at way
    exact absurd way apart

/-- The records that carry a text are those that have carried it, and that of the object if the text is its
identifier.
-/
theorem Upserted.carries_iff (own : Carries after.record? type (type.identifier object) id)
    : Carries after.record? type text x
      ↔ Carries before.record? type text x ∨ text = type.identifier object ∧ x = id := by
  constructor
  · intro carries
    by_cases here : x = id
    · exact Or.inr ⟨(here ▸ carries).unique own, here⟩
    · have typed := step.older apart here carries.live
      exact Or.inl (carries.congr (step.same lawful inside apart forest here typed).symm)
  · rintro (carries | ⟨rfl, rfl⟩)
    · by_cases here : x = id
      · subst here
        obtain ⟨record, live, _⟩ := carries.live
        exact carries.unique (step.carried live) ▸ own
      · exact carries.congr (step.same lawful inside apart forest here carries.live)
    · exact own

/-- The other texts resolve to what they have resolved to. -/
theorem Upserted.resolves_iff (own : Carries after.record? type (type.identifier object) id)
    (other : text ≠ type.identifier object)
    : Resolves after type text x ↔ Resolves before type text x := by
  have same (y : ObjectId)
      : Carries after.record? type text y ↔ Carries before.record? type text y :=
    (step.carries_iff lawful inside apart forest own).trans
      (or_iff_left (fun named => other named.1))
  simp only [Resolves, same]

/-- The identifier of the object resolves to its record. -/
theorem Upserted.resolves (own : Carries after.record? type (type.identifier object) id)
    : Resolves after type (type.identifier object) id := by
  refine ⟨own, fun y carries => ?_⟩
  rcases (step.carries_iff lawful inside apart forest own).mp carries with older | ⟨_, same⟩
  · exact step.greatest older
  · exact Nat.le_of_eq (congrArg ObjectId.rank same)

/-- Objects that are stored under other identifiers stay stored. -/
theorem Upserted.stored {read : Object} (carries : Carries before.record? type text x)
    (other : text ≠ type.identifier object)
    (stored : Object.Stored model before.record? type.name read x)
    : Object.Stored model after.record? type.name read x := by
  refine stored.confined forest step.confined (fun y path touched => ?_)
  obtain ⟨record, present, _⟩ := carries.live
  obtain ⟨_, found⟩ : ∃ record, before.record? id = some record := by
    rcases forest.nested path touched with path | path
    · exact forest.live_of_root path ⟨record, present⟩
    · exact path.root_live ⟨record, present⟩
  have own := step.carried found
  have same : x = id := by
    rcases forest.nested path touched with path | path
    · exact (forest.eq_of_reaches lawful inside apart carries.live own.live path).symm
    · exact forest.eq_of_reaches lawful inside apart own.live carries.live path
  exact other (carries.unique (same ▸ own))

end Step

section Batch

variable (lawful : model.Lawful types) (inside : type ∈ model.entities)
  (identifiable : type.isIdentifiable = true)
  (apart : ¬ Relation.TransGen model.Refers type.name type.name)
include lawful inside identifiable

/-- The record of an upserted object carries its identifier. -/
theorem Upserted.carries (fits : object.fits model type = true)
    (step : Upserted types model type object before id after)
    : Carries after.record? type (type.identifier object) id := by
  obtain ⟨read, back, stored⟩ := step.result
  exact lawful.carries inside identifiable fits back stored

include apart

/-- What is known stays current, and the record of the object is known for its identifier. -/
theorem Upserted.current {known' : Table String ObjectId} {texts : List String}
    (forest : Forest types before) (fits : object.fits model type = true)
    (step : Upserted types model type object before id after)
    (current : Current type texts known before)
    (later
      : ∀ text,
          known'.get? text = if text = type.identifier object then some id else known.get? text)
    : Current type texts known' after := by
  have own := step.carries lawful inside identifiable fits
  have resolves := step.resolves lawful inside apart forest own
  intro text listed x
  rw [later]
  split
  · next same =>
      rw [same, Option.some.injEq]
      exact ⟨fun same => same ▸ resolves, fun other => resolves.unique other⟩
  · next other =>
      rw [current text listed x]
      exact (step.resolves_iff lawful inside apart forest own other).symm

end Batch

end EntityStore
