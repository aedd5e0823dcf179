import EntityStore.Proofs.Field.Encoding
import EntityStore.Proofs.Forest.Confined
import EntityStore.Proofs.Object.Lawful
import Mathlib.Data.List.Forall2

/-! Objects as they stand in a store, and as they come back from it.
A stored object is spread over a record and the trees of its members. What is read back after writing
an object is that object with its fields that are not stored reset, left-out lists empty, and members
in some order.
-/

namespace EntityStore.Object

mutual
/-- The record of the identifier and the trees of its members hold the object. -/
def Stored (model : Model) (source : RecordSource) (entity : String)
    : Object → ObjectId → Prop
  | mk contents, id =>
      ∃ record,
        source id = some record
        ∧ record.entity = entity
        ∧ ContentsStored model source record (model.entity entity).fields contents

/-- The record holds the contents of fields that are stored; the others are at their defaults. -/
def ContentsStored (model : Model) (source : RecordSource) (record : Record)
    : List Field → List Content → Prop
  | [], [] => True
  | field :: fields, content :: contents =>
      (if field.skipped = true then content = field.defaultContent
        else ContentStored model source record field content)
        ∧ ContentsStored model source record fields contents
  | _, _ => False

/-- The record holds the content of a field: the slot is the one that the content is written as, or the
members are stored in the order of the relation.
-/
def ContentStored (model : Model) (source : RecordSource) (record : Record) (field : Field)
    : Content → Prop
  | .scalar content =>
      ∃ type,
        field.kind = .scalar type
        ∧ content.shape = field.shape
        ∧ content.items.all type.admits = true
        ∧ record.value? field.key = content.toAttribute
  | .textual content =>
      ∃ type,
        field.kind = .textual type
        ∧ content.shape = field.shape
        ∧ content.items.all type.admits = true
        ∧ content.toTextAttribute = .ok (record.value? field.key)
  | .members present objects =>
      ∃ target,
        field.kind = .reference target
        ∧ present = true
        ∧ membersFit field.shape true objects.length = true
        ∧ AllStored model source target objects (record.related field.key)

/-- The objects are stored one by one under the identifiers. -/
def AllStored (model : Model) (source : RecordSource) (target : String)
    : List Object → List ObjectId → Prop
  | [], [] => True
  | object :: objects, id :: ids =>
      Stored model source target object id ∧ AllStored model source target objects ids
  | _, _ => False
end

/-- The record holds the content of a field, or the field is not stored and at its default. -/
def FieldStored (model : Model) (source : RecordSource) (record : Record) (field : Field)
    (content : Content)
    : Prop :=
  if field.skipped = true then content = field.defaultContent
  else ContentStored model source record field content

theorem contentsStored_nil {model : Model} {source : RecordSource} {record : Record}
    {contents : List Content}
    : ContentsStored model source record [] contents ↔ contents = [] := by
  cases contents <;> simp [ContentsStored]

/-- Contents are stored field by field. -/
theorem contentsStored_cons {model : Model} {source : RecordSource} {record : Record}
    {field : Field} {fields : List Field} {contents : List Content}
    : ContentsStored model source record (field :: fields) contents
      ↔ ∃ content rest,
          contents = content :: rest
          ∧ FieldStored model source record field content
          ∧ ContentsStored model source record fields rest := by
  cases contents <;> simp [ContentsStored, FieldStored]

theorem allStored_iff {model : Model} {source : RecordSource} {target : String}
    {objects : List Object} {ids : List ObjectId}
    : AllStored model source target objects ids
      ↔ List.Forall₂ (Stored model source target) objects ids := by
  induction objects generalizing ids with
  | nil => cases ids <;> simp [AllStored]
  | cons object objects ih =>
      cases ids with
      | nil => simp [AllStored]
      | cons id ids => simp [AllStored, ih]

section Congr

variable {model : Model} {source other : RecordSource}

mutual
/-- An object is stored in every source that agrees on the tree of its record. -/
theorem Stored.congr {entity : String} (object : Object) {id : ObjectId}
    (agree : ∀ x, Reaches source id x → other x = source x)
    (stored : Stored model source entity object id)
    : Stored model other entity object id := by
  cases object with
  | mk contents =>
      obtain ⟨record, found, typed, held⟩ := by simpa only [Stored] using stored
      simp only [Stored]
      refine ⟨record, (agree id .refl).trans found, typed, ?_⟩
      refine ContentsStored.congr _ contents (fun key member inside x path => ?_) held
      exact agree x (path.head ⟨key, record, found, inside⟩)

theorem ContentsStored.congr {record : Record} (fields : List Field) (contents : List Content)
    (agree
      : ∀ key,
          ∀ member ∈ record.related key, ∀ x, Reaches source member x → other x = source x)
    (stored : ContentsStored model source record fields contents)
    : ContentsStored model other record fields contents := by
  match fields, contents, stored with
  | [], [], _ => trivial
  | field :: fields, content :: contents, ⟨first, rest⟩ =>
      refine ⟨?_, ContentsStored.congr fields contents agree rest⟩
      split at first
      · next skipped => simpa only [skipped, if_true] using first
      · next kept =>
          simp only [kept, if_false, Bool.false_eq_true]
          exact ContentStored.congr content rfl rfl (agree field.key) first

theorem ContentStored.congr {record record' : Record} {field : Field} (content : Content)
    (values : record'.value? field.key = record.value? field.key)
    (members : record'.related field.key = record.related field.key)
    (agree
      : ∀ member ∈ record.related field.key, ∀ x, Reaches source member x → other x = source x)
    (stored : ContentStored model source record field content)
    : ContentStored model other record' field content := by
  cases content with
  | scalar content => simpa only [ContentStored, values] using stored
  | textual content => simpa only [ContentStored, values] using stored
  | members present objects =>
      obtain ⟨target, kind, there, fit, held⟩ := by simpa only [ContentStored] using stored
      simp only [ContentStored, members]
      exact ⟨target, kind, there, fit, AllStored.congr objects agree held⟩

theorem AllStored.congr {target : String} (objects : List Object) {ids : List ObjectId}
    (agree : ∀ member ∈ ids, ∀ x, Reaches source member x → other x = source x)
    (stored : AllStored model source target objects ids)
    : AllStored model other target objects ids := by
  match objects, ids, stored with
  | [], [], _ => trivial
  | object :: objects, id :: ids, ⟨first, rest⟩ =>
      exact ⟨Stored.congr object (agree id List.mem_cons_self) first,
        AllStored.congr objects (fun member inside => agree member (.tail id inside)) rest⟩
end

end Congr

end EntityStore.Object
