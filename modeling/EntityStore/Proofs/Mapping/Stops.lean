import EntityStore.Proofs.Mapping.Outcome

/-! Where a mapping stops.
Fields are read in their order, and the members of a field are mapped in theirs. So a mapping stops at the
first field whose text gives up, or at the first member whose own mapping stops, when everything before it
has been read.
-/

namespace EntityStore

/-- The members that a field is made of: all of a list, and else the first one. -/
def Field.followed (field : Field) (record : Record) : List ObjectId :=
  if field.shape.list then record.related field.key else (record.related field.key).take 1

-----------------------------------------------------------------------------------------
-- Texts
-----------------------------------------------------------------------------------------

namespace TextualType

/-- Reading a text comes to an end. -/
theorem decode_ne_endless (type : TextualType) (value : Value)
    : (type.decode value).run ≠ .error .endless := by
  intro stops
  unfold decode at stops
  split at stops
  · unfold parse at stops
    split at stops
    · split at stops
      · cases stops
      · split at stops <;> cases stops
    · split at stops
      · cases stops
      · split at stops
        · cases stops
        · split at stops <;> cases stops
    · split at stops <;> cases stops
  · cases stops

/-- A reading comes to an end with its first part and the part that follows. -/
private theorem ne_endless_of_bind {α β : Type} {first : OptionT Attempt α}
    {next : α → OptionT Attempt β} (ends : first.run ≠ .error .endless)
    (later : ∀ answer, (next answer).run ≠ .error .endless)
    : (first >>= next).run ≠ .error .endless := by
  rw [OptionT.run_bind]
  intro stops
  rcases Mapping.attempt_bind_eq_error_iff.mp stops with stops | ⟨answer?, _, stops⟩
  · exact ends stops
  · cases answer? with
    | none => cases stops
    | some answer => exact later answer stops

/-- Reading a list comes to an end. -/
private theorem decodeList_ne_endless (type : TextualType) (value : Value)
    : (Shape.decodeList type.decode value).run ≠ .error .endless := by
  unfold Shape.decodeList
  split
  · next items =>
      induction items with
      | nil => exact fun stops => by cases stops
      | cons item items ih =>
          rw [List.mapM_cons]
          refine ne_endless_of_bind (type.decode_ne_endless item) (fun read => ?_)
          exact ne_endless_of_bind ih (fun rest stops => by cases stops)
  · exact fun stops => by cases stops

/-- What is made of a reading comes to an end with it. -/
private theorem map_ne_endless {α β : Type} {reading : OptionT Attempt α} (f : α → β)
    (ends : reading.run ≠ .error .endless)
    : (f <$> reading).run ≠ .error .endless := by
  rw [map_eq_pure_bind]
  exact ne_endless_of_bind ends (fun answer stops => by cases stops)

/-- Reading an attribute comes to an end. -/
theorem ofAttribute?_ne_endless (type : TextualType) (shape : Shape) (stored : Option Value)
    : type.ofAttribute? shape stored ≠ .error .endless := by
  unfold ofAttribute? Shape.decode
  split
  · exact fun stops => by cases stops
  · exact map_ne_endless _ (type.decode_ne_endless _)
  · exact fun stops => by cases stops
  · exact map_ne_endless _ (type.decode_ne_endless _)
  · exact fun stops => by cases stops
  · exact map_ne_endless _ (decodeList_ne_endless type _)
  · exact fun stops => by cases stops
  · exact map_ne_endless _ (decodeList_ne_endless type _)

end TextualType

-----------------------------------------------------------------------------------------
-- Members and fields
-----------------------------------------------------------------------------------------

namespace Mapping

variable {source : RecordSource} {map : String → Record → Mapping Object} {owner : String}
  {record : Record} {field : Field} {abort : Abort}

section Members

variable {read : Record → Mapping Object}

/-- A member stops where there is a record of it whose mapping does. -/
theorem member?_eq_error_iff {id : ObjectId}
    : member? source read id = .error abort
      ↔ ∃ member, source id = some member ∧ read member = stop abort := by
  unfold member?
  cases source id with
  | none => exact iff_of_false (fun stops => by cases stops) (by simp)
  | some member => simp [object?_eq_error_iff]

/-- Members stop at the first one that does.
Witness: induction on the members.
-/
theorem many_eq_error_iff {ids : List ObjectId}
    : many source read ids = .error abort
      ↔ ∃ before id after objects member,
          ids = before ++ id :: after
          ∧ many source read before = .ok objects
          ∧ source id = some member
          ∧ read member = stop abort := by
  induction ids with
  | nil =>
      refine iff_of_false (fun stops => by cases stops) ?_
      rintro ⟨before, id, after, _, _, split, _⟩
      simp at split
  | cons head ids ih =>
      rw [many, attempt_bind_eq_error_iff, member?_eq_error_iff]
      constructor
      · rintro (⟨member, found, stops⟩ | ⟨object?, mapped, stops⟩)
        · exact ⟨[], head, ids, [], member, rfl, rfl, found, stops⟩
        · rcases attempt_bind_eq_error_iff.mp stops with stops | ⟨_, _, stops⟩
          · obtain ⟨before, id, after, objects, member, rfl, first, found, stops⟩ := ih.mp stops
            refine ⟨head :: before, id, after, object?.toList ++ objects, member, rfl, ?_, found, stops⟩
            exact attempt_bind_eq_ok_iff.mpr
              ⟨object?, mapped, attempt_bind_eq_ok_iff.mpr ⟨objects, first, rfl⟩⟩
          · cases stops
      · rintro ⟨before, id, after, objects, member, split, first, found, stops⟩
        cases before with
        | nil =>
            cases split
            exact Or.inl ⟨member, found, stops⟩
        | cons _ before =>
            cases split
            obtain ⟨object?, mapped, first⟩ := attempt_bind_eq_ok_iff.mp first
            obtain ⟨others, first, _⟩ := attempt_bind_eq_ok_iff.mp first
            refine Or.inr ⟨object?, mapped, attempt_bind_eq_error_iff.mpr (Or.inl ?_)⟩
            exact ih.mpr ⟨before, id, after, others, member, rfl, first, found, stops⟩

/-- Where some first members stop, all of them do. -/
theorem many_eq_error_of_append {first rest : List ObjectId}
    (stops : many source read first = .error abort)
    : many source read (first ++ rest) = .error abort := by
  obtain ⟨before, id, after, objects, member, rfl, mapped, found, stops⟩ :=
    many_eq_error_iff.mp stops
  refine many_eq_error_iff.mpr ⟨before, id, after ++ rest, objects, member, ?_, mapped, found, stops⟩
  rw [List.append_assoc, List.cons_append]

end Members

/-- A required member stops where the members that are followed do. -/
theorem required_eq_stop_iff {read : Record → Mapping Object} {key : String}
    : required source read owner key record = stop abort
      ↔ many source read ((record.related key).take 1) = .error abort := by
  unfold required
  cases record.related key with
  | nil => exact iff_of_false (fun stops => by cases stops) (fun stops => by cases stops)
  | cons id ids =>
      have single : many source read [id] = .error abort
          ↔ member? source read id = .error abort := by
        rw [many, attempt_bind_eq_error_iff]
        refine or_iff_left ?_
        rintro ⟨object?, _, stops⟩
        cases stops
      rw [List.take_succ_cons, List.take_zero, single, member?_eq_error_iff]
      dsimp only
      split
      · next missing => exact iff_of_false (fun stops => by cases stops) (by simp [missing])
      · next member found => simp [found]

/-- A field stops where its text gives up, or where one of the members that it is made of stops. -/
theorem content_eq_stop_iff
    : content source map owner record field = stop abort
      ↔ field.skipped = false
        ∧ ((∃ type,
              field.kind = .textual type
              ∧ type.ofAttribute? field.shape (record.value? field.key) = .error abort)
          ∨ ∃ target,
              field.kind = .reference target
              ∧ many source (map target) (field.followed record) = .error abort) := by
  unfold content Field.followed
  split
  · next skipped => exact iff_of_false (fun stops => by cases stops) (by simp [skipped])
  · next stored =>
      rw [and_iff_right (Bool.eq_false_iff.mpr stored)]
      dsimp only
      split
      · next type kind =>
          refine iff_of_false (fun stops => ?_) (by simp [kind])
          split at stops <;> cases stops
      · next type kind =>
          simp only [kind, FieldKind.textual.injEq, exists_eq_left', reduceCtorEq, false_and,
            exists_false, or_false]
          rw [lift_bind_eq_stop_iff]
          refine or_iff_left ?_
          rintro ⟨shaped?, _, stops⟩
          split at stops <;> cases stops
      · next target kind =>
          simp only [kind, FieldKind.reference.injEq, exists_eq_left', reduceCtorEq, false_and,
            exists_false, false_or]
          split
          · next shape =>
              rw [bind_eq_stop_iff, required_eq_stop_iff]
              simp only [shape, Bool.false_eq_true, if_false]
              refine or_iff_left ?_
              rintro ⟨object, _, stops⟩
              cases stops
          · next shape =>
              rw [lift_bind_eq_stop_iff, optional]
              simp only [shape, Bool.false_eq_true, if_false]
              refine or_iff_left ?_
              rintro ⟨objects, _, stops⟩
              cases stops
          · next shape =>
              rw [lift_bind_eq_stop_iff]
              simp only [shape, if_true]
              refine or_iff_left ?_
              rintro ⟨objects, _, stops⟩
              cases stops

/-- Fields stop at the first one that does. -/
theorem contents_eq_stop_iff {fields : List Field}
    : contents source map owner record fields = stop abort
      ↔ ∃ before field after read,
          fields = before ++ field :: after
          ∧ contents source map owner record before = pure read
          ∧ content source map owner record field = stop abort := by
  induction fields with
  | nil =>
      refine iff_of_false (fun stops => by cases stops) ?_
      rintro ⟨before, field, after, _, split, _⟩
      simp at split
  | cons head fields ih =>
      rw [contents, bind_eq_stop_iff]
      constructor
      · rintro (stops | ⟨content, comes, stops⟩)
        · exact ⟨[], head, fields, [], rfl, rfl, stops⟩
        · rcases bind_eq_stop_iff.mp stops with stops | ⟨_, _, stops⟩
          · obtain ⟨before, field, after, read, rfl, first, stops⟩ := ih.mp stops
            refine ⟨head :: before, field, after, content :: read, rfl, ?_, stops⟩
            exact bind_eq_pure_iff.mpr ⟨content, comes, bind_eq_pure_iff.mpr ⟨read, first, rfl⟩⟩
          · cases stops
      · rintro ⟨before, field, after, read, split, first, stops⟩
        cases before with
        | nil =>
            cases split
            exact Or.inl stops
        | cons _ before =>
            cases split
            obtain ⟨content, comes, first⟩ := bind_eq_pure_iff.mp first
            obtain ⟨others, first, _⟩ := bind_eq_pure_iff.mp first
            refine Or.inr ⟨content, comes, bind_eq_stop_iff.mpr (Or.inl ?_)⟩
            exact ih.mpr ⟨before, field, after, others, rfl, first, stops⟩

/-- Where some first fields stop, all of them do. -/
theorem contents_eq_stop_of_append {first rest : List Field}
    (stops : contents source map owner record first = stop abort)
    : contents source map owner record (first ++ rest) = stop abort := by
  obtain ⟨before, field, after, read, rfl, comes, stops⟩ := contents_eq_stop_iff.mp stops
  refine contents_eq_stop_iff.mpr ⟨before, field, after ++ rest, read, ?_, comes, stops⟩
  rw [List.append_assoc, List.cons_append]

end Mapping

end EntityStore
