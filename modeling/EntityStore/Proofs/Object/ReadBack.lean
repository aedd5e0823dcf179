import EntityStore.Proofs.Field.Equality
import EntityStore.Proofs.Object.Stored

/-! What writing an object and reading it again makes of it.
Contents come back as they are, floating point numbers with all their bits. Fields that are not stored
come back at their defaults, and a list of members comes back present and in any order.
-/

namespace EntityStore.Object

mutual
/-- The second object is what the first one comes back as. -/
def ReadsBack (model : Model) (entity : String) : Object → Object → Prop
  | mk written, mk read => ContentsReadBack model (model.entity entity).fields written read

/-- The contents of the fields come back one by one; what is not stored comes back at its default. -/
def ContentsReadBack (model : Model) : List Field → List Content → List Content → Prop
  | [], [], [] => True
  | field :: fields, written :: writtens, read :: reads =>
      (if field.skipped = true then read = field.defaultContent
        else ContentReadsBack model field written read)
        ∧ ContentsReadBack model fields writtens reads
  | _, _, _ => False

/-- The content of a field that is stored comes back the same, and members arranged in some order. -/
def ContentReadsBack (model : Model) (field : Field) : Content → Content → Prop
  | .scalar content, read => read = .scalar content
  | .textual content, read => read = .textual content
  | .members _ objects, read =>
      ∃ target arranged members,
        field.kind = .reference target
        ∧ AllReadBack model target objects arranged
        ∧ arranged.Perm members
        ∧ read = .members true members

/-- The objects come back one by one. -/
def AllReadBack (model : Model) (target : String) : List Object → List Object → Prop
  | [], [] => True
  | written :: writtens, read :: reads =>
      ReadsBack model target written read ∧ AllReadBack model target writtens reads
  | _, _ => False
end

/-- The content of a field is what another one comes back as. -/
def FieldReadsBack (model : Model) (field : Field) (written read : Content) : Prop :=
  if field.skipped = true then read = field.defaultContent
  else ContentReadsBack model field written read

theorem contentsReadBack_nil {model : Model} {written read : List Content}
    : ContentsReadBack model [] written read ↔ written = [] ∧ read = [] := by
  cases written <;> cases read <;> simp [ContentsReadBack]

/-- Contents come back field by field. -/
theorem contentsReadBack_cons {model : Model} {field : Field} {fields : List Field}
    {written read : List Content}
    : ContentsReadBack model (field :: fields) written read
      ↔ ∃ content writtens content' reads,
          written = content :: writtens
          ∧ read = content' :: reads
          ∧ FieldReadsBack model field content content'
          ∧ ContentsReadBack model fields writtens reads := by
  cases written <;> cases read <;> simp [ContentsReadBack, FieldReadsBack]

theorem allReadBack_iff {model : Model} {target : String} {written read : List Object}
    : AllReadBack model target written read
      ↔ List.Forall₂ (ReadsBack model target) written read := by
  induction written generalizing read with
  | nil => cases read <;> simp [AllReadBack]
  | cons object written ih =>
      cases read with
      | nil => simp [AllReadBack]
      | cons other read => simp [AllReadBack, ih]

section Equality

variable {model types : Model} {source : RecordSource}

mutual
/-- A stored object of a plain type that equals an object is what the object comes back as.
Witness: without floating point numbers equality is exact, and members in the same order are members
in some order.
-/
theorem ReadsBack.of_equals (lawful : model.Lawful types) {entity : String}
    (known : model.Knows entity) (plain : (model.entity entity).Plain) (read written : Object)
    {id : ObjectId} (stored : Stored model source entity read id)
    (equal : equals read written = true)
    : ReadsBack model entity written read := by
  cases read with
  | mk reads =>
      cases written with
      | mk writtens =>
          obtain ⟨record, _, _, held⟩ := by simpa only [Stored] using stored
          simp only [ReadsBack]
          simp only [equals] at equal
          exact ContentsReadBack.of_equal lawful known plain _ (List.Subset.refl _) reads writtens
            held equal
termination_by structural read

theorem ContentsReadBack.of_equal (lawful : model.Lawful types) {entity : String}
    (known : model.Knows entity) (plain : (model.entity entity).Plain) {record : Record}
    (fields : List Field) (part : fields ⊆ (model.entity entity).fields)
    (reads writtens : List Content) (stored : ContentsStored model source record fields reads)
    (equal : contentsEqual reads writtens = true)
    : ContentsReadBack model fields writtens reads := by
  match fields, reads, writtens, part, stored, equal with
  | [], [], [], _, _, _ => simp only [ContentsReadBack]
  | [], [], _ :: _, _, _, equal => simp [contentsEqual] at equal
  | _ :: _, _ :: _, [], _, _, equal => simp [contentsEqual] at equal
  | field :: fields, read :: reads, written :: writtens, part, ⟨first, rest⟩, equal =>
      obtain ⟨inside, part⟩ := List.cons_subset.mp part
      simp only [contentsEqual, Bool.and_eq_true] at equal
      simp only [ContentsReadBack]
      refine ⟨?_,
        ContentsReadBack.of_equal lawful known plain fields part reads writtens rest equal.2⟩
      split at first
      · next skipped => simpa only [skipped, if_true] using first
      · next kept =>
          simp only [kept, if_false, Bool.false_eq_true]
          exact ContentReadsBack.of_equal lawful known plain inside read written first equal.1
termination_by structural reads

theorem ContentReadsBack.of_equal (lawful : model.Lawful types) {entity : String}
    (known : model.Knows entity) (plain : (model.entity entity).Plain) {record : Record}
    {field : Field} (inside : field ∈ (model.entity entity).fields) (read written : Content)
    (stored : ContentStored model source record field read)
    (equal : contentEqual read written = true)
    : ContentReadsBack model field written read := by
  cases read with
  | scalar content =>
      cases written with
      | scalar other =>
          obtain ⟨type, kind, _, admits, _⟩ := by simpa only [ContentStored] using stored
          obtain ⟨single, double⟩ := plain.exact field inside
          have same : content = other := by
            refine (ScalarType.agree_iff ?_ ?_ admits).mp
              (by simpa only [contentEqual] using equal)
            · intro same
              obtain rfl := same
              exact single kind
            · intro same
              obtain rfl := same
              exact double kind
          simp only [ContentReadsBack, same]
      | _ => simp [contentEqual] at equal
  | textual content =>
      cases written with
      | textual other =>
          have same : content = other :=
            Textual.agree_iff.mp (by simpa only [contentEqual] using equal)
          simp only [ContentReadsBack, same]
      | _ => simp [contentEqual] at equal
  | members present objects =>
      cases written with
      | members present' others =>
          obtain ⟨target, kind, rfl, _, held⟩ := by simpa only [ContentStored] using stored
          simp only [contentEqual, Bool.and_eq_true] at equal
          obtain ⟨_, known, plain⟩ := lawful.reference known inside kind
          simp only [ContentReadsBack]
          refine ⟨target, objects, objects, kind, ?_, .refl _, rfl⟩
          exact AllReadBack.of_equal lawful known plain objects others held equal.2
      | _ => simp [contentEqual] at equal
termination_by structural read

theorem AllReadBack.of_equal (lawful : model.Lawful types) {target : String}
    (known : model.Knows target) (plain : (model.entity target).Plain)
    (reads writtens : List Object) {ids : List ObjectId}
    (stored : AllStored model source target reads ids) (equal : allEqual reads writtens = true)
    : AllReadBack model target writtens reads := by
  match reads, writtens, ids, stored, equal with
  | [], [], _, _, _ => simp only [AllReadBack]
  | [], _ :: _, _, _, equal => simp [allEqual] at equal
  | _ :: _, [], _, _, equal => simp [allEqual] at equal
  | read :: reads, written :: writtens, id :: ids, ⟨first, rest⟩, equal =>
      simp only [allEqual, Bool.and_eq_true] at equal
      simp only [AllReadBack]
      exact ⟨ReadsBack.of_equals lawful known plain read written first equal.1,
        AllReadBack.of_equal lawful known plain reads writtens rest equal.2⟩
termination_by structural reads
end

end Equality

end EntityStore.Object
