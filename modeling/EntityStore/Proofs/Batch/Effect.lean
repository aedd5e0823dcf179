import EntityStore.Proofs.Batch.Secure
import EntityStore.Proofs.Batch.Single

/-! The whole effect of a batch.
Objects of a type that does not reach itself keep out of each other's way. After a batch each of its
identifiers stands for one record, the one that it stood for before or a new one, which holds what the
last object of the identifier comes back as. The other records of the type stay as they are, also those
that carry an identifier of the batch.
-/

namespace EntityStore

variable {types model : Model} {context before after : Context} {type : EntityType}
  {object : Object} {objects : List Object} {known : Table String ObjectId} {text : String}
  {id x : ObjectId}

section Batch

variable (lawful : model.Lawful types) (inside : type ∈ model.entities)
  (identifiable : type.isIdentifiable = true)
  (apart : ¬ Relation.TransGen model.Refers type.name type.name)
  (forest : Forest types before)
  (fits : ∀ object ∈ objects, object.fits model type = true)
  (current : Current type (objects.map type.identifier) known before)
  (upserts : Upserts types model type objects known before after)
include lawful inside identifiable apart forest fits current upserts

/-- A batch is its first object and then the others, where the record of the first one carries its
identifier and the others find current what is known. -/
private theorem Upserts.first {object : Object} {rest : List Object}
    (same : objects = object :: rest)
    : ∃ id middle known',
        Upserted types model type object before id middle
        ∧ Carries middle.record? type (type.identifier object) id
        ∧ Current type (rest.map type.identifier) known' middle
        ∧ Upserts types model type rest known' middle after := by
  subst same
  obtain ⟨id, middle, known', step, later, knows⟩ :=
    upserts.uncons forest (current _ List.mem_cons_self)
  have fit := fits object List.mem_cons_self
  refine ⟨id, middle, known', step, step.carries lawful inside identifiable fit, ?_, later⟩
  intro text listed
  exact step.current lawful inside identifiable apart forest fit current knows text
    (List.mem_cons_of_mem _ listed)

/-- What a text resolves to it still resolves to after a batch. -/
theorem Upserts.resolves (resolves : Resolves before type text x) : Resolves after type text x := by
  induction objects generalizing before known with
  | nil =>
      cases upserts
      exact resolves
  | cons object objects ih =>
      obtain ⟨id, middle, known', step, own, current', later⟩ :=
        upserts.first lawful inside identifiable apart forest fits current rfl
      refine ih step.forest (fun other listed => fits other (List.mem_cons_of_mem _ listed)) current'
        later ?_
      by_cases same : text = type.identifier object
      · subst same
        exact step.chosen resolves ▸ step.resolves lawful inside apart forest own
      · exact (step.resolves_iff lawful inside apart forest own same).mpr resolves

/-- Each identifier of a batch resolves to a record after it. -/
theorem Upserts.exists_resolves (named : text ∈ objects.map type.identifier)
    : ∃ root, Resolves after type text root := by
  induction objects generalizing before known with
  | nil => contradiction
  | cons object objects ih =>
      obtain ⟨id, middle, known', step, own, current', later⟩ :=
        upserts.first lawful inside identifiable apart forest fits current rfl
      have fits' : ∀ other ∈ objects, other.fits model type = true := fun other listed =>
        fits other (List.mem_cons_of_mem _ listed)
      rcases List.mem_cons.mp named with rfl | named
      · exact ⟨id, later.resolves lawful inside identifiable apart step.forest fits' current'
          (step.resolves lawful inside apart forest own)⟩
      · exact ih step.forest fits' current' later named

/-- What a batch does not name stays resolved and stored. -/
theorem Upserts.keeps {read : Object} (unnamed : text ∉ objects.map type.identifier)
    (resolves : Resolves before type text x)
    (stored : Object.Stored model before.record? type.name read x)
    : Object.Stored model after.record? type.name read x := by
  induction objects generalizing before known with
  | nil =>
      cases upserts
      exact stored
  | cons object objects ih =>
      obtain ⟨id, middle, known', step, own, current', later⟩ :=
        upserts.first lawful inside identifiable apart forest fits current rfl
      rw [List.map_cons, List.mem_cons, not_or] at unnamed
      refine ih step.forest (fun other listed => fits other (List.mem_cons_of_mem _ listed)) current'
        later unnamed.2 ?_ ?_
      · exact (step.resolves_iff lawful inside apart forest own unnamed.1).mpr resolves
      · exact step.stored lawful inside apart forest resolves.1 unnamed.1 stored

/-- After a batch each identifier resolves to a record that holds what the last object of the identifier
comes back as.
Witness: so it is after the object's own step, and no later step touches its tree.
-/
theorem Upserts.recalled {earlier later : List Object}
    (split : objects = earlier ++ object :: later)
    (last : type.identifier object ∉ later.map type.identifier)
    : ∃ id read,
        Resolves after type (type.identifier object) id
        ∧ Object.ReadsBack model type.name object read
        ∧ Object.Stored model after.record? type.name read id := by
  induction earlier generalizing before known objects with
  | nil =>
      obtain ⟨id, middle, known', step, own, current', rest⟩ :=
        upserts.first lawful inside identifiable apart forest fits current split
      have fits' : ∀ other ∈ later, other.fits model type = true := fun other listed =>
        fits other (split ▸ List.mem_cons_of_mem _ listed)
      have resolves := step.resolves lawful inside apart forest own
      obtain ⟨read, back, stored⟩ := step.result
      refine ⟨id, read, ?_, back, ?_⟩
      · exact rest.resolves lawful inside identifiable apart step.forest fits' current' resolves
      · exact rest.keeps lawful inside identifiable apart step.forest fits' current' last resolves
          stored
  | cons head earlier ih =>
      obtain ⟨_, middle, known', step, _, current', rest⟩ :=
        upserts.first lawful inside identifiable apart forest fits current split
      exact ih step.forest
        (fun other listed => fits other (split ▸ List.mem_cons_of_mem _ listed)) current' rest rfl

/-- The records that carry a text after a batch are those that have carried it, and the one that the text
resolves to if the batch names it.
-/
theorem Upserts.carries_iff
    : Carries after.record? type text x
      ↔ Carries before.record? type text x
        ∨ text ∈ objects.map type.identifier ∧ Resolves after type text x := by
  induction objects generalizing before known with
  | nil =>
      cases upserts
      simp
  | cons object objects ih =>
      obtain ⟨id, middle, known', step, own, current', later⟩ :=
        upserts.first lawful inside identifiable apart forest fits current rfl
      have fits' : ∀ other ∈ objects, other.fits model type = true := fun other listed =>
        fits other (List.mem_cons_of_mem _ listed)
      have resolves : Resolves after type (type.identifier object) id :=
        later.resolves lawful inside identifiable apart step.forest fits' current'
          (step.resolves lawful inside apart forest own)
      rw [ih step.forest fits' current' later,
        step.carries_iff lawful inside apart forest own, List.map_cons, List.mem_cons]
      constructor
      · rintro ((carries | ⟨rfl, rfl⟩) | ⟨named, resolves'⟩)
        · exact Or.inl carries
        · exact Or.inr ⟨Or.inl rfl, resolves⟩
        · exact Or.inr ⟨Or.inr named, resolves'⟩
      · rintro (carries | ⟨rfl | named, resolves'⟩)
        · exact Or.inl (Or.inl carries)
        · exact Or.inl (Or.inr ⟨rfl, resolves'.unique resolves⟩)
        · exact Or.inr ⟨named, resolves'⟩

/-- A record of the type that no identifier of the batch resolves to stays as it is, and is not new. -/
theorem Upserts.unchanged
    (other : ∀ text ∈ objects.map type.identifier, ¬ Resolves after type text x) {record : Record}
    (typed : record.entity = type.name)
    : after.record? x = some record ↔ before.record? x = some record := by
  induction objects generalizing before known with
  | nil =>
      cases upserts
      rfl
  | cons object objects ih =>
      obtain ⟨id, middle, known', step, own, current', later⟩ :=
        upserts.first lawful inside identifiable apart forest fits current rfl
      have fits' : ∀ other ∈ objects, other.fits model type = true := fun other listed =>
        fits other (List.mem_cons_of_mem _ listed)
      have resolves : Resolves after type (type.identifier object) id :=
        later.resolves lawful inside identifiable apart step.forest fits' current'
          (step.resolves lawful inside apart forest own)
      have distinct : x ≠ id := by
        rintro rfl
        exact other _ List.mem_cons_self resolves
      rw [ih step.forest fits' current' later
        (fun text named => other text (List.mem_cons_of_mem _ named))]
      constructor
      · intro found
        have older := step.older apart distinct ⟨record, found, typed⟩
        exact (step.same lawful inside apart forest distinct older).symm.trans found
      · intro found
        exact (step.same lawful inside apart forest distinct ⟨record, found, typed⟩).trans found

end Batch

end EntityStore
