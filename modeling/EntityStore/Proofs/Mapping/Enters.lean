import EntityStore.Proofs.Mapping.Stops

/-! The records that a mapping enters.
Mapping a record enters the records of its members, one after another, as long as everything before them
has been read. Granting more depth changes nothing but a mapping that has used up its depth, so what a
mapping enters and where it gives up can be said without a depth.
-/

namespace EntityStore

-----------------------------------------------------------------------------------------
-- More depth
-----------------------------------------------------------------------------------------

/-- The longer computation does the same as the shorter one, unless that one has not come to an end. -/
def Attempt.Extends {α : Type} (short long : Attempt α) : Prop :=
  short = .error .endless ∨ long = short

theorem Attempt.Extends.bind {α β : Type} {short long : Attempt α} {next next' : α → Attempt β}
    (first : short.Extends long) (later : ∀ answer, (next answer).Extends (next' answer))
    : Attempt.Extends (short >>= next) (long >>= next') := by
  rcases first with rfl | rfl
  · exact Or.inl rfl
  · cases long with
    | ok answer => exact later answer
    | error _ => exact Or.inr rfl

namespace Mapping

variable {α β : Type}

/-- The longer mapping does the same as the shorter one, unless that one has not come to an end. -/
def Extends (short long : Mapping α) : Prop :=
  short = endless ∨ long = short

theorem Extends.refl (mapping : Mapping α) : mapping.Extends mapping :=
  Or.inr rfl

theorem Extends.bind {short long : Mapping α} {next next' : α → Mapping β}
    (first : short.Extends long) (later : ∀ answer, (next answer).Extends (next' answer))
    : Extends (short >>= next) (long >>= next') := by
  rcases first with rfl | rfl
  · exact Or.inl rfl
  · match long with
    | .ok (.ok answer) => exact later answer
    | .ok (.error _) => exact Or.inr rfl
    | .error _ => exact Or.inr rfl

theorem Extends.lift_bind {short long : Attempt α} (first : short.Extends long)
    (next : α → Mapping β)
    : Extends ((short : Mapping α) >>= next) ((long : Mapping α) >>= next) := by
  rcases first with rfl | rfl
  · exact Or.inl rfl
  · exact Or.inr rfl

theorem Extends.object? {short long : Mapping α} (mapping : short.Extends long)
    : short.object?.Extends long.object? := by
  rcases mapping with rfl | rfl
  · exact Or.inl rfl
  · exact Or.inr rfl

section Fields

variable {source : RecordSource} {short long : String → Record → Mapping Object}
  (goes : ∀ entity record, (short entity record).Extends (long entity record))
include goes

theorem many_extends (entity : String) (ids : List ObjectId)
    : (many source (short entity) ids).Extends (many source (long entity) ids) := by
  induction ids with
  | nil => exact Or.inr rfl
  | cons id ids ih =>
      have first : (member? source (short entity) id).Extends (member? source (long entity) id) := by
        unfold member?
        split
        · exact Or.inr rfl
        · exact (goes entity _).object?
      exact first.bind (fun _ => ih.bind (fun _ => Or.inr rfl))

theorem content_extends (owner : String) (record : Record) (field : Field)
    : (content source short owner record field).Extends (content source long owner record field) := by
  unfold content
  split
  · exact .refl _
  · dsimp only
    split
    · exact .refl _
    · exact .refl _
    · next target _ =>
        split
        · refine Extends.bind ?_ (fun _ => .refl _)
          unfold required
          split
          · exact .refl _
          · split
            · exact .refl _
            · exact goes target _
        · exact Extends.lift_bind (many_extends goes target _) _
        · exact Extends.lift_bind (many_extends goes target _) _

theorem contents_extends (owner : String) (record : Record) (fields : List Field)
    : (contents source short owner record fields).Extends
        (contents source long owner record fields) := by
  induction fields with
  | nil => exact .refl _
  | cons field fields ih =>
      refine (content_extends goes owner record field).bind (fun _ => ?_)
      exact ih.bind (fun _ => .refl _)

end Fields

/-- Granting more depth changes only what has used its depth up.
Witness: induction on the depth; members are granted one less.
-/
theorem ofRecordWithin_extends (model : Model) (source : RecordSource) {depth more : Nat}
    (deeper : depth ≤ more) (entity : String) (record : Record)
    : (ofRecordWithin model source depth entity record).Extends
        (ofRecordWithin model source more entity record) := by
  induction depth generalizing more entity record with
  | zero => exact Or.inl rfl
  | succ depth ih =>
      cases more with
      | zero => contradiction
      | succ more =>
          refine Extends.bind (contents_extends (fun entity record => ?_) _ _ _) (fun _ => .refl _)
          exact ih (Nat.le_of_succ_le_succ deeper) entity record

-----------------------------------------------------------------------------------------
-- One record
-----------------------------------------------------------------------------------------

/-- An entity type with a record that is to be mapped to an object of it. -/
abbrev Node := String × Record

/-- Where members are mapped in some way, mapping a record comes to one of its members, because everything
before it has been read.
-/
inductive EntersBy (source : RecordSource) (map : String → Record → Mapping Object)
    (type : EntityType) (record : Record)
    : Node → Prop where
  | member {before field after read target ids id others objects member}
      (fields : type.fields = before ++ field :: after)
      (first : contents source map type.name record before = pure read)
      (stored : field.skipped = false)
      (kind : field.kind = .reference target)
      (followed : field.followed record = ids ++ id :: others)
      (mapped : many source (map target) ids = .ok objects)
      (found : source id = some member)
    : EntersBy source map type record (target, member)

/-- Mapping a record gives up at the text of a field, because everything before it has been read. -/
inductive GivesUpBy (source : RecordSource) (map : String → Record → Mapping Object)
    (type : EntityType) (record : Record)
    : Abort → Prop where
  | text {before field after read textual abort}
      (fields : type.fields = before ++ field :: after)
      (first : contents source map type.name record before = pure read)
      (stored : field.skipped = false)
      (kind : field.kind = .textual textual)
      (stops : textual.ofAttribute? field.shape (record.value? field.key) = .error abort)
    : GivesUpBy source map type record abort

section One

variable {source : RecordSource} {map short long : String → Record → Mapping Object}
  {type : EntityType} {record : Record} {node : Node} {abort : Abort}

/-- Reading the fields of a record stops at a text, or with a member that it comes to. -/
theorem contents_stops_iff
    : contents source map type.name record type.fields = stop abort
      ↔ GivesUpBy source map type record abort
        ∨ ∃ node, EntersBy source map type record node ∧ map node.1 node.2 = stop abort := by
  rw [contents_eq_stop_iff]
  constructor
  · rintro ⟨before, field, after, read, fields, first, stops⟩
    obtain ⟨stored, ⟨textual, kind, stops⟩ | ⟨target, kind, stops⟩⟩ := content_eq_stop_iff.mp stops
    · exact Or.inl (.text fields first stored kind stops)
    · obtain ⟨ids, id, others, objects, member, followed, mapped, found, stops⟩ :=
        many_eq_error_iff.mp stops
      exact Or.inr ⟨_, .member fields first stored kind followed mapped found, stops⟩
  · rintro (⟨fields, first, stored, kind, stops⟩ | ⟨node, enters, stops⟩)
    · refine ⟨_, _, _, _, fields, first, content_eq_stop_iff.mpr ⟨stored, Or.inl ?_⟩⟩
      exact ⟨_, kind, stops⟩
    · obtain ⟨fields, first, stored, kind, followed, mapped, found⟩ := enters
      refine ⟨_, _, _, _, fields, first, content_eq_stop_iff.mpr ⟨stored, Or.inr ⟨_, kind, ?_⟩⟩⟩
      exact many_eq_error_iff.mpr ⟨_, _, _, _, _, followed, mapped, found, stops⟩

/-- No text goes on for ever. -/
theorem GivesUpBy.ne_endless (gives : GivesUpBy source map type record abort) : abort ≠ .endless := by
  rintro rfl
  obtain ⟨_, _, _, _, stops⟩ := gives
  exact TextualType.ofAttribute?_ne_endless _ _ _ stops

variable (goes : ∀ entity record, (short entity record).Extends (long entity record))
include goes

/-- What has been read is read with more depth. -/
private theorem contents_of_pure {fields : List Field} {read : List Content}
    (first : contents source short type.name record fields = pure read)
    : contents source long type.name record fields = pure read := by
  rcases contents_extends goes type.name record fields with stops | same
  · rw [stops] at first
    cases first
  · rw [same, first]

private theorem many_of_ok {entity : String} {ids : List ObjectId} {objects : List Object}
    (mapped : many source (short entity) ids = .ok objects)
    : many source (long entity) ids = .ok objects := by
  rcases many_extends goes entity ids with stops | same
  · rw [stops] at mapped
    cases mapped
  · rw [same, mapped]

/-- With more depth a mapping comes to the same members. -/
theorem EntersBy.deeper (enters : EntersBy source short type record node)
    : EntersBy source long type record node := by
  obtain ⟨fields, first, stored, kind, followed, mapped, found⟩ := enters
  exact .member fields (contents_of_pure goes first) stored kind followed (many_of_ok goes mapped) found

theorem GivesUpBy.deeper (gives : GivesUpBy source short type record abort)
    : GivesUpBy source long type record abort := by
  obtain ⟨fields, first, stored, kind, stops⟩ := gives
  exact .text fields (contents_of_pure goes first) stored kind stops

/-- With less depth a mapping comes to the same members, unless it has used its depth up before. -/
theorem EntersBy.shallower (enters : EntersBy source long type record node)
    : contents source short type.name record type.fields = stop .endless
      ∨ EntersBy source short type record node := by
  obtain ⟨fields, first, stored, kind, followed, mapped, found⟩ := enters
  rcases contents_extends goes type.name record _ with stops | same
  · rw [fields]
    exact Or.inl (contents_eq_stop_of_append stops)
  · rw [same] at first
    rcases many_extends goes _ _ with stops | same
    · refine Or.inl (contents_eq_stop_iff.mpr ⟨_, _, _, _, fields, first, ?_⟩)
      refine content_eq_stop_iff.mpr ⟨stored, Or.inr ⟨_, kind, ?_⟩⟩
      rw [followed]
      exact many_eq_error_of_append stops
    · rw [same] at mapped
      exact Or.inr (.member fields first stored kind followed mapped found)

end One

end Mapping

end EntityStore
