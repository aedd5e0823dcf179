import EntityStore.Proofs.Context.Job
import EntityStore.Proofs.Forest.Deletion
import EntityStore.Proofs.Forest.Writes
import EntityStore.Proofs.Object.Member

/-! What writing an object is to achieve.
An object is written to an identifier, whether its record is still live or not. The forest is kept,
older records are touched only in the tree of the identifier, and a live record holds what the object
comes back as.
-/

namespace EntityStore

variable {types model : Model} {context before after : Context}

namespace Object

/-- An object stays stored on a way that is confined to other trees. -/
theorem Stored.confined {touched : ObjectId → Prop} {entity : String} {object : Object}
    {id : ObjectId} (stored : Stored model before.record? entity object id)
    (forest : Forest types before) (confined : Confined types touched before after)
    (untouched : ∀ x, Reaches before.record? id x → ¬ touched x)
    : Stored model after.record? entity object id := by
  obtain ⟨record, found, _⟩ := stored.live
  exact stored.congr _ (confined.frame_reaches forest (forest.bounded found) untouched)

theorem AllStored.confined {touched : ObjectId → Prop} {target : String} {objects : List Object}
    {ids : List ObjectId} (stored : AllStored model before.record? target objects ids)
    (forest : Forest types before) (confined : Confined types touched before after)
    (untouched : ∀ id ∈ ids, ∀ x, Reaches before.record? id x → ¬ touched x)
    : AllStored model after.record? target objects ids := by
  rw [allStored_iff, List.forall₂_iff_zip] at *
  refine ⟨stored.1, fun {object id} inside => ?_⟩
  exact (stored.2 inside).confined forest confined (untouched id (List.of_mem_zip inside).2)

/-- Every identifier stands for one of the objects that are stored. -/
theorem AllStored.each {source : RecordSource} {target : String} {objects : List Object}
    {ids : List ObjectId} (stored : AllStored model source target objects ids)
    : ∀ id ∈ ids, ∃ object ∈ objects, Stored model source target object id := by
  induction objects generalizing ids with
  | nil =>
      cases ids with
      | nil => exact fun id inside => absurd inside List.not_mem_nil
      | cons id ids => simp [AllStored] at stored
  | cons object objects ih =>
      cases ids with
      | nil => simp [AllStored] at stored
      | cons head ids =>
          simp only [AllStored] at stored
          intro id inside
          rcases List.mem_cons.mp inside with rfl | inside
          · exact ⟨object, List.mem_cons_self, stored.1⟩
          · obtain ⟨other, listed, rest⟩ := ih stored.2 id inside
            exact ⟨other, List.mem_cons_of_mem _ listed, rest⟩

/-- Objects that are stored are live members. -/
theorem AllStored.live {source : RecordSource} {target : String} {objects : List Object}
    {ids : List ObjectId} (stored : AllStored model source target objects ids)
    : ∀ id ∈ ids, ∃ record, source id = some record ∧ record.entity = target := by
  intro id inside
  obtain ⟨object, _, first⟩ := stored.each id inside
  exact first.live

end Object

/-- The members in the content of a field. -/
def Content.objects : Content → List Object
  | .members _ objects => objects
  | _ => []

/-- Writing members that a field stores is reconciling the relation with them. -/
theorem Object.writeContent_members {field : Field} {target : String}
    (kind : field.kind = .reference target) (kept : field.skipped = false) (present : Bool)
    (objects : List Object)
    : Object.writeContent model field (.members present objects)
      = fun id =>
          Object.reconcile Object.equals model target id field.key objects field.shape.list
            (!field.keepOrphans) (Object.settle model target objects) := by
  funext id
  rw [writeContent]
  simp only [kind, kept, Bool.false_eq_true, if_false]

/-- What holds of an object when it holds of all members in its contents holds of every object. -/
theorem Object.induction {P : Object → Prop}
    (step
      : ∀ contents,
          (∀ content ∈ contents, ∀ object ∈ content.objects, P object) → P (.mk contents))
    (object : Object)
    : P object := by
  refine @Object.rec P (fun content => ∀ object ∈ content.objects, P object)
    (fun contents => ∀ content ∈ contents, ∀ object ∈ content.objects, P object)
    (fun objects => ∀ object ∈ objects, P object) step ?_ ?_ ?_ ?_ ?_ ?_ ?_ object
  · exact fun _ object inside => absurd inside List.not_mem_nil
  · exact fun _ object inside => absurd inside List.not_mem_nil
  · exact fun _ _ all => all
  · exact fun content inside => absurd inside List.not_mem_nil
  · exact fun _ _ first rest => List.forall_mem_cons.mpr ⟨first, rest⟩
  · exact fun object inside => absurd inside List.not_mem_nil
  · exact fun _ _ first rest => List.forall_mem_cons.mpr ⟨first, rest⟩

/-- An object of the entity type can be written to the identifier: a record that stands under it is of
the type, and everything below it is complete.
-/
structure Writable (types : Model) (entity : String) (id : ObjectId) (context : Context)
    : Prop where
  forest : Forest types context
  given : id.rank < context.nextId.toNat
  typed : ∀ {record}, context.record? id = some record → record.entity = entity
  tidy : Tidy types context id

/-- An identifier stays writable on a way that is confined. -/
theorem Writable.confined {touched : ObjectId → Prop} {entity : String} {id : ObjectId}
    (writable : Writable types entity id before) (forest : Forest types after)
    (confined : Confined types touched before after)
    : Writable types entity id after := by
  refine ⟨forest, Nat.lt_of_lt_of_le writable.given confined.nextId_le, ?_, ?_⟩
  · intro record found
    obtain ⟨earlier, found, same⟩ := confined.survivor writable.given found
    exact same.trans (writable.typed found)
  · exact writable.tidy.confined writable.forest confined

/-- The context after an object was written to an identifier. -/
structure Written (types model : Model) (entity : String) (object : Object) (id : ObjectId)
    (before after : Context)
    : Prop where
  forest : Forest types after
  confined : Confined types (Reaches before.record? id) before after
  result
    : ∀ {record},
        before.record? id = some record
        → ∃ read,
            Object.ReadsBack model entity object read
            ∧ Object.Stored model after.record? entity read id

/-- Wherever the object fits it is written, or the job gives up. -/
def Writes (types model : Model) (object : Object) : Prop :=
  ∀ entity id context,
    model.Knows entity
    → object.fits model (model.entity entity) = true
    → Writable types entity id context
    → (Object.write model entity object id).Ensures context
        (fun _ after => Written types model entity object id context after)

end EntityStore
