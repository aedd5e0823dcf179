import EntityStore.Proofs.Object.Completion

/-! Stored objects are mapped.
The depth that a mapping is granted is never used up, because every level of a tree leaves fewer records
beyond it: what is stored is what is mapped.
-/

namespace EntityStore

variable {types model : Model} {context : Context}

namespace Object

/-- A stored object has a record. -/
theorem Stored.live {source : RecordSource} {entity : String} {object : Object} {id : ObjectId}
    (stored : Stored model source entity object id)
    : ∃ record, source id = some record ∧ record.entity = entity := by
  cases object with
  | mk contents =>
      obtain ⟨record, found, typed, _⟩ := by simpa only [Stored] using stored
      exact ⟨record, found, typed⟩

mutual
/-- A stored object is mapped within any depth that the number of records from its own on does not
exceed.
-/
theorem Stored.maps (forest : Forest types context) (depth : Nat) {entity : String}
    (object : Object) {id : ObjectId} {record : Record}
    (found : context.record? id = some record)
    (stored : Stored model context.record? entity object id)
    (shallow : (context.beyond id).length ≤ depth)
    : Mapping.ofRecordWithin model context.record? depth entity record = pure object := by
  cases object with
  | mk contents =>
      obtain ⟨record', found', _, held⟩ := by simpa only [Stored] using stored
      obtain rfl : record = record' := Option.some.inj (found.symm.trans found')
      cases depth with
      | zero =>
          have inside : record ∈ context.beyond id := by
            refine List.mem_filter.mpr ⟨Context.mem_live_iff.mpr ⟨id, found⟩, ?_⟩
            rw [forest.keyed found]
            exact decide_eq_true (Nat.le_refl _)
          rw [List.length_eq_zero_iff.mp (Nat.le_zero.mp shallow)] at inside
          contradiction
      | succ depth =>
          have members := ContentsStored.maps forest depth (model.entity entity).name _ contents
            held (fun key member inside => by
              have := forest.beyond_lt ⟨key, record, found, inside⟩
              omega)
          simp only [Mapping.ofRecordWithin, members]
          rfl
termination_by structural object

theorem ContentsStored.maps (forest : Forest types context) (depth : Nat) (owner : String)
    {record : Record} (fields : List Field) (contents : List Content)
    (stored : ContentsStored model context.record? record fields contents)
    (shallow : ∀ key, ∀ member ∈ record.related key, (context.beyond member).length ≤ depth)
    : Mapping.contents context.record? (Mapping.ofRecordWithin model context.record? depth) owner
        record fields
      = pure contents := by
  match fields, contents, stored with
  | [], [], _ => rfl
  | field :: fields, content :: contents, ⟨first, rest⟩ =>
      have here : Mapping.content context.record?
          (Mapping.ofRecordWithin model context.record? depth) owner record field
          = pure content := by
        split at first
        · next skipped =>
            simp only [Mapping.content, skipped, if_true, first]
        · next kept =>
            exact ContentStored.maps forest depth owner content kept first (shallow field.key)
      have later := ContentsStored.maps forest depth owner fields contents rest shallow
      simp only [Mapping.contents, here, later, pure_bind]
termination_by structural contents

theorem ContentStored.maps (forest : Forest types context) (depth : Nat) (owner : String)
    {record : Record} {field : Field} (content : Content) (kept : ¬ field.skipped = true)
    (stored : ContentStored model context.record? record field content)
    (shallow : ∀ member ∈ record.related field.key, (context.beyond member).length ≤ depth)
    : Mapping.content context.record? (Mapping.ofRecordWithin model context.record? depth) owner
        record field
      = pure content := by
  cases content with
  | scalar content =>
      obtain ⟨type, kind, shape, admits, slot⟩ := by simpa only [ContentStored] using stored
      have read := ScalarType.ofAttribute?_toAttribute admits
      simp only [Mapping.content, kept, kind, slot, ← shape, read, if_false, Bool.false_eq_true]
  | textual content =>
      obtain ⟨type, kind, shape, admits, slot⟩ := by simpa only [ContentStored] using stored
      have read := TextualType.ofAttribute?_toTextAttribute admits slot
      simp only [Mapping.content, kept, kind, ← shape, read, if_false, Bool.false_eq_true]
      rfl
  | members present objects =>
      obtain ⟨target, kind, rfl, fit, held⟩ := by simpa only [ContentStored] using stored
      have all := AllStored.maps forest depth objects held shallow
      have count := (allStored_iff.mp held).length_eq
      simp only [Mapping.content, kept, kind, if_false, Bool.false_eq_true]
      split
      · next shape =>
          simp only [membersFit, shape, Bool.true_and, Bool.false_eq_true, if_false,
            decide_eq_true_eq] at fit
          match objects, related : record.related field.key, held with
          | [object], [id], ⟨first, _⟩ =>
              obtain ⟨member, found, _⟩ := first.live
              have here := Stored.maps forest depth object found first
                (shallow id (by rw [related]; exact List.mem_cons_self))
              simp only [Mapping.required, related, found, here]
              rfl
      · next shape =>
          simp only [membersFit, shape, Bool.true_and, Bool.false_eq_true, if_false, if_true,
            decide_eq_true_eq] at fit
          have few : (record.related field.key).take 1 = record.related field.key :=
            List.take_of_length_le (by omega)
          rw [Mapping.optional, few, all]
          rfl
      · next shape =>
          rw [all]
          rfl
termination_by structural content

theorem AllStored.maps (forest : Forest types context) (depth : Nat) {target : String}
    (objects : List Object) {ids : List ObjectId}
    (stored : AllStored model context.record? target objects ids)
    (shallow : ∀ member ∈ ids, (context.beyond member).length ≤ depth)
    : Mapping.many context.record? (Mapping.ofRecordWithin model context.record? depth target) ids
      = pure objects := by
  match objects, ids, stored with
  | [], [], _ => rfl
  | object :: objects, id :: ids, ⟨first, rest⟩ =>
      obtain ⟨record, found, _⟩ := first.live
      have here := Stored.maps forest depth object found first (shallow id List.mem_cons_self)
      have later := AllStored.maps forest depth objects rest
        (fun member inside => shallow member (List.mem_cons_of_mem id inside))
      simp only [Mapping.many, Mapping.member?, found, here, later]
      rfl
termination_by structural objects
end

end Object

/-- The record of a stored object maps to it. -/
theorem Context.map_of_stored (forest : Forest types context) {entity : String} {object : Object}
    {id : ObjectId} {record : Record} (found : context.record? id = some record)
    (stored : Object.Stored model context.record? entity object id)
    : context.map model entity record = pure object := by
  refine Object.Stored.maps forest _ object found stored ?_
  calc (context.beyond id).length
      ≤ context.live.length := List.length_filter_le _ _
    _ ≤ (context.live.length + 1) * 1 := by omega
    _ ≤ context.mappingDepth model := Nat.mul_le_mul_left _ (Nat.le_add_left 1 _)

end EntityStore
