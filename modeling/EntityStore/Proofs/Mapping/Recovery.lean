import EntityStore.Proofs.Mapping.Outcome
import EntityStore.Proofs.Write.Reconcile

/-! What a complete record maps to is stored in it.
In a forest of complete records the mapping of a record ends with an object or an error. It loses nothing
that writing the object would write: each slot is read in the one form that its field writes, and each
member maps to the object that its tree holds.
-/

namespace EntityStore

-----------------------------------------------------------------------------------------
-- Mappings that end
-----------------------------------------------------------------------------------------

namespace Mapping

variable {α β : Type} {post : β → Prop}

/-- The mapping ends with an error, or with a result within `post`. -/
def Yields (mapping : Mapping α) (post : α → Prop) : Prop :=
  ∃ result, mapping.run = .ok result ∧ ∀ answer, result = .ok answer → post answer

theorem Yields.pure {answer : β} (holds : post answer) : (Pure.pure answer : Mapping β).Yields post :=
  ⟨.ok answer, rfl, fun _ same => Except.ok.inj same ▸ holds⟩

theorem Yields.throw (error : MappingError) : (MonadExcept.throw error : Mapping β).Yields post :=
  ⟨.error error, rfl, fun _ same => by cases same⟩

theorem Yields.mono {weaker : β → Prop} {mapping : Mapping β} (yields : mapping.Yields post)
    (implies : ∀ answer, post answer → weaker answer)
    : mapping.Yields weaker :=
  have ⟨result, ends, holds⟩ := yields
  ⟨result, ends, fun answer same => implies answer (holds answer same)⟩

/-- What follows a mapping that ends follows its result. -/
theorem Yields.bind {middle : α → Prop} {mapping : Mapping α} {next : α → Mapping β}
    (first : mapping.Yields middle) (later : ∀ answer, middle answer → (next answer).Yields post)
    : (mapping >>= next).Yields post := by
  obtain ⟨result, ends, holds⟩ := first
  cases result with
  | ok answer =>
      obtain ⟨result, ends', holds'⟩ := later answer (holds answer rfl)
      refine ⟨result, ?_, holds'⟩
      obtain rfl : mapping = .ok (.ok answer) := ends
      exact ends'
  | error error =>
      obtain rfl : mapping = .ok (.error error) := ends
      exact .throw error

/-- An attempt that succeeds passes its answer on. -/
theorem Yields.lift_bind {attempt : Attempt α} {answer : α} {next : α → Mapping β}
    (succeeds : attempt = .ok answer) (later : (next answer).Yields post)
    : Yields ((attempt : Mapping α) >>= next) post := by
  subst succeeds
  exact later

end Mapping

-----------------------------------------------------------------------------------------
-- Fields
-----------------------------------------------------------------------------------------

variable {types model : Model} {context : Context} {entity target : String} {id : ObjectId}
  {record : Record} {field : Field}

namespace Object

open Mapping

/-- Members that are stored are what the content of their field is read as. -/
private theorem members_yield (forest : Forest types context) (owner : String) (depth : Nat)
    (kept : ¬ field.skipped = true) (kind : field.kind = .reference target)
    (single : field.shape.list = false → (record.related field.key).length ≤ 1)
    (shallow : context.live.length ≤ depth) {objects : List Object}
    (stored : AllStored model context.record? target objects (record.related field.key))
    : (content context.record? (ofRecordWithin model context.record? depth) owner record field).Yields
        (FieldStored model context.record? record field) := by
  have beyond (id : ObjectId) : (context.beyond id).length ≤ depth :=
    Nat.le_trans (List.length_filter_le _ _) shallow
  have all := AllStored.maps forest depth objects stored (fun member _ => beyond member)
  have count := (allStored_iff.mp stored).length_eq
  have holds (fit : membersFit field.shape true objects.length = true)
      : FieldStored model context.record? record field (.members true objects) := by
    rw [FieldStored, if_neg kept]
    simp only [ContentStored]
    exact ⟨target, kind, trivial, fit, stored⟩
  simp only [content, kept, kind, if_false, Bool.false_eq_true]
  split
  · next shape =>
      unfold required
      split
      · have never (error : MappingError)
            : (MonadExcept.throw error : Mapping Object).Yields (fun _ => False) :=
          .throw error
        exact (never _).bind (fun _ absurd => absurd.elim)
      · next id ids related =>
          have few := single (by rw [shape])
          rw [related] at stored count few
          obtain rfl := List.length_eq_zero_iff.mp (Nat.le_zero.mp (Nat.le_of_succ_le_succ few))
          obtain ⟨object, rfl⟩ := List.length_eq_one_iff.mp count
          simp only [AllStored, and_true] at stored
          obtain ⟨member, found, _⟩ := stored.live
          simp only [found, stored.maps forest depth object found (beyond id), pure_bind]
          exact .pure (holds (by simp [membersFit, shape]))
  · next shape =>
      have few := single (by rw [shape])
      rw [Mapping.optional, List.take_of_length_le few, all]
      refine .lift_bind rfl (.pure (holds ?_))
      simpa [membersFit, shape, count] using few
  · next shape =>
      rw [all]
      exact .lift_bind rfl (.pure (holds (by simp [membersFit, shape])))

/-- A slot in the form that its field writes, and members that are stored, are what the content of the
field is read as. -/
private theorem content_yields (forest : Forest types context) (owner : String) (depth : Nat)
    (encodes : field.skipped = false → field.Encodes (record.value? field.key))
    (single : field.shape.list = false → (record.related field.key).length ≤ 1)
    (shallow : context.live.length ≤ depth)
    (members
      : ∀ target,
          field.kind = .reference target
          → ∃ objects, AllStored model context.record? target objects (record.related field.key))
    : (content context.record? (ofRecordWithin model context.record? depth) owner record field).Yields
        (FieldStored model context.record? record field) := by
  cases skipped : field.skipped with
  | true =>
      simp only [content, skipped, if_true]
      refine .pure ?_
      rw [FieldStored, if_pos skipped]
  | false =>
      have kept : ¬ field.skipped = true := by simp [skipped]
      have encodes := encodes skipped
      cases kind : field.kind with
      | scalar type =>
          obtain ⟨shaped, shape, admits, slot⟩ := by simpa only [Field.Encodes, kind] using encodes
          have read := ScalarType.ofAttribute?_toAttribute admits
          simp only [content, kept, kind, slot, ← shape, read, if_false, Bool.false_eq_true]
          refine .pure ?_
          rw [FieldStored, if_neg kept]
          simp only [ContentStored]
          exact ⟨type, kind, shape, admits, slot⟩
      | textual type =>
          obtain ⟨shaped, shape, admits, slot⟩ := by simpa only [Field.Encodes, kind] using encodes
          have read := TextualType.ofAttribute?_toTextAttribute admits slot
          simp only [content, kept, kind, ← shape, read, if_false, Bool.false_eq_true]
          refine .lift_bind rfl (.pure ?_)
          rw [FieldStored, if_neg kept]
          simp only [ContentStored]
          exact ⟨type, kind, shape, admits, slot⟩
      | reference target =>
          obtain ⟨objects, stored⟩ := members target kind
          exact members_yield forest owner depth kept kind single shallow stored

/-- Fields whose contents are read as what is stored make contents that are stored. -/
private theorem contents_yield (model : Model) (source : RecordSource) (map : String → Record → Mapping Object)
    (owner : String) (fields : List Field)
    (each
      : ∀ field ∈ fields,
          (content source map owner record field).Yields (FieldStored model source record field))
    : (Mapping.contents source map owner record fields).Yields (ContentsStored model source record fields) := by
  induction fields with
  | nil => exact .pure (contentsStored_nil.mpr rfl)
  | cons field fields ih =>
      rw [Mapping.contents]
      refine (each field List.mem_cons_self).bind (fun first here => ?_)
      refine (ih (fun other listed => each other (.tail _ listed))).bind (fun rest later => ?_)
      exact .pure (contentsStored_cons.mpr ⟨first, rest, rfl, here, later⟩)

end Object

-----------------------------------------------------------------------------------------
-- Records
-----------------------------------------------------------------------------------------

/-- In a forest the mapping of a complete record, below which everything is complete, ends with an error or
with the object that is stored there.
-/
theorem Writable.map_yields (lawful : model.Lawful types) (known : model.Knows entity)
    (start : Writable types entity id context) (complete : ¬ Incomplete types context id)
    (found : context.record? id = some record)
    : (context.map model entity record).Yields
        (fun object => Object.Stored model context.record? entity object id) := by
  obtain ⟨depth, deep, shallow⟩ : ∃ depth,
      context.mappingDepth model = depth + 1 ∧ context.live.length ≤ depth := by
    refine ⟨context.mappingDepth model - 1, ?_, ?_⟩ <;>
      have := Nat.mul_le_mul_left (context.live.length + 1) (Nat.le_add_left 1 model.entities.length) <;>
      unfold Context.mappingDepth <;> omega
  have full : record.Complete types :=
    Classical.byContradiction (fun lacking => complete ⟨record, found, lacking⟩)
  have fields : (types.entity record.entity).fields = (model.entity entity).fields := by
    rw [start.typed found, lawful.entity_eq known]
  rw [Context.map, deep, Mapping.ofRecordWithin]
  refine (Object.contents_yield model _ _ _ _ (fun field inside => ?_)).bind
    (fun contents held => ?_)
  · refine Object.content_yields start.forest _ depth (full field (fields ▸ inside)) ?_ shallow ?_
    · exact fun single => start.forest.single found (fields ▸ inside) single
    · intro target kind
      obtain ⟨members, _, listed, faithful⟩ := Member.ofIds_of_stored start.forest _
        (start.members_stored lawful known inside kind)
      rw [Context.related_eq found] at listed
      exact ⟨_, listed ▸ Member.allStored_of_faithful members faithful⟩
  · refine .pure ?_
    simp only [Object.Stored]
    exact ⟨record, found, start.typed found, held⟩

end EntityStore
