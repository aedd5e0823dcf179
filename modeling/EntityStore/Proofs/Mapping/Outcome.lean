import EntityStore.Entity.Mapping

/-! How a mapping comes out.
A mapping reads an object, fails with an error, or stops. What it is made of decides which: fields are
read in order, and the members of a field in order, so the first one that stops ends everything.
-/

namespace EntityStore.Mapping

variable {α β : Type} {abort : Abort}

/-- A mapping that stops. -/
def stop (abort : Abort) : Mapping α :=
  ExceptT.lift (.error abort)

-----------------------------------------------------------------------------------------
-- One after another
-----------------------------------------------------------------------------------------

theorem bind_eq_pure_iff {mapping : Mapping α} {next : α → Mapping β} {result : β}
    : mapping >>= next = pure result
      ↔ ∃ first, mapping = pure first ∧ next first = pure result := by
  constructor
  · intro comes
    match mapping, comes with
    | .ok (.ok first), comes => exact ⟨first, rfl, comes⟩
    | .ok (.error _), comes => cases comes
    | .error _, comes => cases comes
  · rintro ⟨first, rfl, comes⟩
    exact comes

theorem bind_eq_stop_iff {mapping : Mapping α} {next : α → Mapping β}
    : mapping >>= next = stop abort
      ↔ mapping = stop abort ∨ ∃ first, mapping = pure first ∧ next first = stop abort := by
  constructor
  · intro stops
    match mapping, stops with
    | .ok (.ok first), stops => exact Or.inr ⟨first, rfl, stops⟩
    | .ok (.error _), stops => cases stops
    | .error _, stops =>
        cases stops
        exact Or.inl rfl
  · rintro (rfl | ⟨first, rfl, stops⟩)
    · rfl
    · exact stops

theorem lift_bind_eq_pure_iff {attempt : Attempt α} {next : α → Mapping β} {result : β}
    : (attempt : Mapping α) >>= next = pure result
      ↔ ∃ first, attempt = .ok first ∧ next first = pure result := by
  constructor
  · intro comes
    match attempt, comes with
    | .ok first, comes => exact ⟨first, rfl, comes⟩
    | .error _, comes => cases comes
  · rintro ⟨first, rfl, comes⟩
    exact comes

theorem lift_bind_eq_stop_iff {attempt : Attempt α} {next : α → Mapping β}
    : (attempt : Mapping α) >>= next = stop abort
      ↔ attempt = .error abort ∨ ∃ first, attempt = .ok first ∧ next first = stop abort := by
  constructor
  · intro stops
    match attempt, stops with
    | .ok first, stops => exact Or.inr ⟨first, rfl, stops⟩
    | .error _, stops =>
        cases stops
        exact Or.inl rfl
  · rintro (rfl | ⟨first, rfl, stops⟩)
    · rfl
    · exact stops

theorem attempt_bind_eq_ok_iff {attempt : Attempt α} {next : α → Attempt β} {result : β}
    : attempt >>= next = .ok result
      ↔ ∃ first, attempt = .ok first ∧ next first = .ok result := by
  cases attempt with
  | error abort => simp [bind, Except.bind]
  | ok first => simp [bind, Except.bind]

theorem attempt_bind_eq_error_iff {attempt : Attempt α} {next : α → Attempt β}
    : attempt >>= next = .error abort
      ↔ attempt = .error abort ∨ ∃ first, attempt = .ok first ∧ next first = .error abort := by
  cases attempt with
  | error abort => simp [bind, Except.bind]
  | ok first => simp [bind, Except.bind]

theorem object?_eq_some_iff {mapping : Mapping α} {object : α}
    : mapping.object? = .ok (some object) ↔ mapping = pure object := by
  constructor
  · intro comes
    match mapping, comes with
    | .ok (.ok _), comes =>
        cases comes
        rfl
    | .ok (.error _), comes => cases comes
    | .error _, comes => cases comes
  · rintro rfl
    rfl

theorem object?_eq_error_iff {mapping : Mapping α}
    : mapping.object? = .error abort ↔ mapping = stop abort := by
  constructor
  · intro stops
    match mapping, stops with
    | .ok (.ok _), stops => cases stops
    | .ok (.error _), stops => cases stops
    | .error _, stops =>
        cases stops
        rfl
  · rintro rfl
    rfl

-----------------------------------------------------------------------------------------
-- What is read
-----------------------------------------------------------------------------------------

variable {source : RecordSource} {map : String → Record → Mapping Object} {owner : String}
  {record : Record} {field : Field}

/-- Members have been read where each of them is nothing or comes from its record. -/
theorem exists_of_mem_many {read : Record → Mapping Object} {ids : List ObjectId}
    {objects : List Object} (comes : many source read ids = .ok objects) {object : Object}
    (listed : object ∈ objects)
    : ∃ id ∈ ids, ∃ member, source id = some member ∧ read member = pure object := by
  induction ids generalizing objects with
  | nil =>
      cases comes
      contradiction
  | cons id ids ih =>
      obtain ⟨object?, here, later⟩ := attempt_bind_eq_ok_iff.mp comes
      obtain ⟨others, rest, same⟩ := attempt_bind_eq_ok_iff.mp later
      cases same
      rcases List.mem_append.mp listed with first | last
      · obtain rfl := Option.mem_toList.mp first
        unfold member? at here
        split at here
        · cases here
        · next member found =>
            exact ⟨id, List.mem_cons_self, member, found, object?_eq_some_iff.mp here⟩
      · obtain ⟨other, inside, found⟩ := ih rest last
        exact ⟨other, List.mem_cons_of_mem id inside, found⟩

/-- Where the content of a field comes from. -/
inductive Comes (map : String → Record → Mapping Object) (record : Record) (field : Field)
    : Content → Prop where
  | skipped (skipped : field.skipped = true) : Comes map record field field.defaultContent
  | scalar {type shaped} (kind : field.kind = .scalar type)
      (comes : type.ofAttribute? field.shape (record.value? field.key) = some shaped)
    : Comes map record field (.scalar shaped)
  | textual {type shaped} (kind : field.kind = .textual type)
      (comes : type.ofAttribute? field.shape (record.value? field.key) = .ok (some shaped))
    : Comes map record field (.textual shaped)
  | members {target objects} (kind : field.kind = .reference target)
      (comes : ∀ object ∈ objects, ∃ member, map target member = pure object)
    : Comes map record field (.members true objects)

/-- A content that has been read comes from somewhere. -/
theorem comes_of_content {content : Content}
    (read : Mapping.content source map owner record field = pure content)
    : Comes map record field content := by
  unfold Mapping.content at read
  split at read
  · next skipped =>
      cases read
      exact .skipped skipped
  · dsimp only at read
    split at read
    · next type kind =>
        split at read
        · next shaped comes =>
            cases read
            exact .scalar kind comes
        · cases read
    · next type kind =>
        obtain ⟨shaped?, comes, read⟩ := lift_bind_eq_pure_iff.mp read
        split at read
        · cases read
          exact .textual kind comes
        · cases read
    · next target kind =>
        split at read
        · obtain ⟨object, comes, read⟩ := bind_eq_pure_iff.mp read
          cases read
          refine .members kind (fun other listed => ?_)
          obtain rfl := List.mem_singleton.mp listed
          unfold required at comes
          split at comes
          · cases comes
          · split at comes
            · cases comes
            · next member _ => exact ⟨member, comes⟩
        all_goals
          obtain ⟨objects, comes, read⟩ := lift_bind_eq_pure_iff.mp read
          cases read
          refine .members kind (fun object listed => ?_)
          obtain ⟨_, _, member, _, mapped⟩ := exists_of_mem_many comes listed
          exact ⟨member, mapped⟩

/-- Each content that has been read comes from one of the fields. -/
theorem comes_of_mem_contents {fields : List Field} {read : List Content}
    (comes : contents source map owner record fields = pure read) {content : Content}
    (listed : content ∈ read)
    : ∃ field ∈ fields, Comes map record field content := by
  induction fields generalizing read with
  | nil =>
      cases comes
      contradiction
  | cons field fields ih =>
      obtain ⟨first, here, later⟩ := bind_eq_pure_iff.mp comes
      obtain ⟨rest, others, same⟩ := bind_eq_pure_iff.mp later
      cases same
      rcases List.mem_cons.mp listed with rfl | listed
      · exact ⟨field, List.mem_cons_self, comes_of_content here⟩
      · obtain ⟨other, inside, comes⟩ := ih others listed
        exact ⟨other, List.mem_cons_of_mem field inside, comes⟩

end EntityStore.Mapping
