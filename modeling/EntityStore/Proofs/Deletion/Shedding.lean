import EntityStore.Proofs.Forest.Deletion

/-! Records that go, and what they leave behind.
When a set of records goes, every other record loses the members of the set from its relations and
keeps everything else. Sets that go one after another leave what their union leaves, so it does not
matter in which portions the records of a set go.
-/

namespace EntityStore

variable {context middle after : Context} {gone further : ObjectId → Prop} {record : Record}

-----------------------------------------------------------------------------------------
-- One relation
-----------------------------------------------------------------------------------------

open Classical in
/-- The identifier is not in the set. -/
noncomputable def spares (gone : ObjectId → Prop) (member : ObjectId) : Bool :=
  decide (¬ gone member)

theorem spares_iff {member : ObjectId} : spares gone member = true ↔ ¬ gone member := by
  simp [spares]

/-- The members that a relation keeps when a set of records goes, none where no member is left. -/
private noncomputable def kept? (gone : ObjectId → Prop) (ids : List ObjectId)
    : Option (List ObjectId) :=
  if (ids.filter (spares gone)).isEmpty then none else some (ids.filter (spares gone))

private theorem kept?_ne_nil {ids left : List ObjectId} (keeps : kept? gone ids = some left)
    : left ≠ [] := by
  unfold kept? at keeps
  split at keeps
  · contradiction
  · next full =>
      obtain rfl := Option.some.inj keeps
      exact fun empty => full (List.isEmpty_iff.mpr empty)

/-- A relation without members of the set is kept as it is. -/
private theorem kept?_of_free {ids : List ObjectId} (full : ids ≠ [])
    (free : ∀ member ∈ ids, ¬ gone member)
    : kept? gone ids = some ids := by
  have same : ids.filter (spares gone) = ids :=
    List.filter_eq_self.mpr (fun member inside => spares_iff.mpr (free member inside))
  rw [kept?, same, if_neg (fun empty => full (List.isEmpty_iff.mp empty))]

/-- Two sets that go one after another leave the members that are in neither. -/
private theorem kept?_bind (gone further : ObjectId → Prop) (ids : List ObjectId)
    : (kept? gone ids).bind (kept? further)
      = kept? (fun member => gone member ∨ further member) ids := by
  have twice : (ids.filter (spares gone)).filter (spares further)
      = ids.filter (spares (fun member => gone member ∨ further member)) := by
    rw [List.filter_filter]
    refine List.filter_congr (fun member _ => ?_)
    rw [Bool.eq_iff_iff, Bool.and_eq_true, spares_iff, spares_iff, spares_iff, not_or, and_comm]
  by_cases empty : (ids.filter (spares gone)).isEmpty = true
  · rw [kept?, if_pos empty, kept?, ← twice, List.isEmpty_iff.mp empty]
    rfl
  · rw [kept?, if_neg empty, Option.bind_some, kept?, twice, kept?]

-----------------------------------------------------------------------------------------
-- One record
-----------------------------------------------------------------------------------------

/-- Some relation of the record holds a member of the set. -/
def Record.Touched (gone : ObjectId → Prop) (record : Record) : Prop :=
  ∃ key, ∃ member ∈ record.related key, gone member

open Classical in
/-- The record without the members of a set. A relation that is left without members is not kept, and
a record that holds no member of the set stays as it is. -/
noncomputable def Record.shed (gone : ObjectId → Prop) (record : Record) : Record :=
  if record.Touched gone then
    { record with relations := record.relations.filterMap (fun _ => kept? gone) }
  else record

namespace Record

@[simp] theorem shed_id (gone : ObjectId → Prop) (record : Record)
    : (record.shed gone).id = record.id := by
  unfold shed
  split <;> rfl

@[simp] theorem shed_entity (gone : ObjectId → Prop) (record : Record)
    : (record.shed gone).entity = record.entity := by
  unfold shed
  split <;> rfl

@[simp] theorem shed_attributes (gone : ObjectId → Prop) (record : Record)
    : (record.shed gone).attributes = record.attributes := by
  unfold shed
  split <;> rfl

theorem shed_of_untouched (untouched : ¬ record.Touched gone) : record.shed gone = record :=
  if_neg untouched

private theorem get?_shed (touched : record.Touched gone) (key : String)
    : (record.shed gone).relations.get? key = (record.relations.get? key).bind (kept? gone) := by
  rw [shed, if_pos touched]
  exact Table.get?_filterMap _ _ _

private theorem related_of_get? {key : String} {ids : List ObjectId}
    (found : record.relations.get? key = some ids)
    : record.related key = ids := by
  rw [related, found, Option.getD_some]

/-- Exactly the members of the set leave a relation, and the others keep their order. -/
theorem related_shed (gone : ObjectId → Prop) (record : Record) (key : String)
    : (record.shed gone).related key
      = (record.related key).filter (spares gone) := by
  by_cases touched : record.Touched gone
  · rw [related, get?_shed touched, related]
    cases record.relations.get? key with
    | none => rfl
    | some ids =>
        rw [Option.bind_some, Option.getD_some]
        unfold kept?
        split
        · next empty => rw [List.isEmpty_iff.mp empty, Option.getD_none]
        · rfl
  · rw [shed_of_untouched touched]
    refine (List.filter_eq_self.mpr (fun member inside => ?_)).symm
    exact spares_iff.mpr (fun going => touched ⟨key, member, inside, going⟩)

/-- A member that is left was there before and is not in the set. -/
theorem mem_related_shed {key : String} {member : ObjectId}
    : member ∈ (record.shed gone).related key ↔ member ∈ record.related key ∧ ¬ gone member := by
  rw [related_shed, List.mem_filter, spares_iff]

/-- Sets that have the same members among those of the record leave the same record. -/
theorem shed_congr (same : ∀ key, ∀ member ∈ record.related key, gone member ↔ further member)
    : record.shed gone = record.shed further := by
  have touched : record.Touched gone ↔ record.Touched further := by
    constructor
    · intro given
      obtain ⟨key, member, inside, going⟩ := given
      exact ⟨key, member, inside, (same key member inside).mp going⟩
    · intro given
      obtain ⟨key, member, inside, going⟩ := given
      exact ⟨key, member, inside, (same key member inside).mpr going⟩
  by_cases first : record.Touched gone
  · have relations : (record.shed gone).relations = (record.shed further).relations := by
      refine Table.ext_get? (fun key => ?_)
      rw [get?_shed first, get?_shed (touched.mp first)]
      cases found : record.relations.get? key with
      | none => rfl
      | some ids =>
          have left : ids.filter (spares gone) = ids.filter (spares further) := by
            refine List.filter_congr (fun member inside => ?_)
            rw [Bool.eq_iff_iff, spares_iff, spares_iff,
              same key member (by rwa [related_of_get? found])]
          simp only [Option.bind_some, kept?, left]
    simp only [shed, if_pos first, if_pos (touched.mp first)] at relations ⊢
    rw [relations]
  · rw [shed_of_untouched first, shed_of_untouched (fun given => first (touched.mpr given))]

/-- Two sets that go one after another leave what their union leaves. -/
theorem shed_shed (gone further : ObjectId → Prop) (record : Record)
    : (record.shed gone).shed further = record.shed (fun member => gone member ∨ further member) := by
  by_cases first : record.Touched gone
  · have union : record.Touched (fun member => gone member ∨ further member) := by
      obtain ⟨key, member, inside, going⟩ := first
      exact ⟨key, member, inside, Or.inl going⟩
    have relations : ((record.shed gone).shed further).relations
        = (record.shed (fun member => gone member ∨ further member)).relations := by
      refine Table.ext_get? (fun key => ?_)
      have before := get?_shed first key
      rw [get?_shed union, ← show _ = _ from Option.bind_congr (fun ids _ => kept?_bind gone further ids),
        ← Option.bind_assoc, ← before]
      by_cases second : (record.shed gone).Touched further
      · exact get?_shed second key
      · rw [shed_of_untouched second]
        cases left : (record.shed gone).relations.get? key with
        | none => rfl
        | some ids =>
            rw [Option.bind_some]
            refine (kept?_of_free ?_ (fun member inside going => ?_)).symm
            · rw [before] at left
              obtain ⟨_, _, keeps⟩ := Option.bind_eq_some_iff.mp left
              exact (kept?_ne_nil keeps)
            · exact second ⟨key, member, by rwa [related_of_get? left], going⟩
    have rest (gone : ObjectId → Prop) (record : Record)
        : record.shed gone = { record with relations := (record.shed gone).relations } := by
      unfold shed
      split <;> rfl
    rw [rest further, rest (fun member => gone member ∨ further member), relations]
    simp only [shed_id, shed_entity, shed_attributes]
  · rw [shed_of_untouched first]
    refine shed_congr (fun key member inside => (or_iff_right ?_).symm)
    exact fun going => first ⟨key, member, inside, going⟩

/-- Taking out one identifier is the case of a set of one. -/
theorem without_eq_shed (id : ObjectId) (record : Record)
    : record.without id = record.shed (· = id) := by
  have touched : record.references id = true ↔ record.Touched (· = id) := by
    rw [references_iff]
    simp only [Touched, exists_eq_right]
  unfold without shed
  by_cases refers : record.references id = true
  · have rule (ids : List ObjectId) : ids.filter (spares (· = id)) = ids.filter (· ≠ id) :=
      List.filter_congr (fun member _ => by rw [Bool.eq_iff_iff, spares_iff, decide_eq_true_iff])
    have same : (fun (_ : String) (ids : List ObjectId) =>
        if (ids.filter (· ≠ id)).isEmpty then none else some (ids.filter (· ≠ id)))
        = fun _ => kept? (· = id) := by
      funext _ ids
      rw [kept?, rule]
    rw [if_pos refers, if_pos (touched.mp refers)]
    exact congrArg (fun f => { record with relations := record.relations.filterMap f }) same
  · rw [if_neg refers, if_neg (fun given => refers (touched.mpr given))]

end Record

-----------------------------------------------------------------------------------------
-- All records
-----------------------------------------------------------------------------------------

/-- The records of a set are gone, and every other record is left without them. -/
structure Sheds (gone : ObjectId → Prop) (context after : Context) : Prop where
  frame : Context.SameFrame context after
  dead : ∀ {x}, gone x → after.record? x = none
  left : ∀ {x}, ¬ gone x → after.record? x = (context.record? x).map (Record.shed gone)

namespace Sheds

theorem refl (context : Context) : Sheds (fun _ => False) context context := by
  refine ⟨.refl context, False.elim, fun _ => ?_⟩
  have same : Record.shed (fun _ => False) = id := by
    funext record
    refine Record.shed_of_untouched (fun touched => ?_)
    obtain ⟨_, _, _, going⟩ := touched
    exact going
  rw [same, Option.map_id, id]

theorem trans (first : Sheds gone context middle) (second : Sheds further middle after)
    : Sheds (fun x => gone x ∨ further x) context after := by
  refine ⟨first.frame.trans second.frame, fun {x} going => ?_, fun {x} staying => ?_⟩
  · by_cases later : further x
    · exact second.dead later
    · rw [second.left later, first.dead (going.resolve_right later), Option.map_none]
  · rw [not_or] at staying
    rw [second.left staying.2, first.left staying.1, Option.map_map]
    refine Option.map_congr (fun record _ => ?_)
    exact Record.shed_shed gone further record

/-- The set matters only as far as it holds records that are live or held. -/
theorem congr (sheds : Sheds gone context after)
    (same : ∀ x, gone x ↔ further x)
    : Sheds further context after := by
  obtain rfl : gone = further := funext (fun x => propext (same x))
  exact sheds

/-- A record that is left was there before. -/
theorem found {x : ObjectId} {record' : Record} (sheds : Sheds gone context after)
    (found : after.record? x = some record')
    : ¬ gone x ∧ ∃ record, context.record? x = some record ∧ record' = record.shed gone := by
  by_cases going : gone x
  · rw [sheds.dead going] at found
    contradiction
  · rw [sheds.left going] at found
    obtain ⟨record, present, rfl⟩ := Option.map_eq_some_iff.mp found
    exact ⟨going, record, present, rfl⟩

/-- The records that are left are those that were live and did not go. -/
theorem live_iff {x : ObjectId} (sheds : Sheds gone context after)
    : (∃ record, after.record? x = some record)
      ↔ (∃ record, context.record? x = some record) ∧ ¬ gone x := by
  constructor
  · intro given
    obtain ⟨_, found⟩ := given
    obtain ⟨staying, record, present, _⟩ := sheds.found found
    exact ⟨⟨record, present⟩, staying⟩
  · intro given
    obtain ⟨⟨record, present⟩, staying⟩ := given
    exact ⟨record.shed gone, by rw [sheds.left staying, present, Option.map_some]⟩

theorem keyed (sheds : Sheds gone context after) (keyed : Keyed context.record?)
    : Keyed after.record? := by
  intro x record' found
  obtain ⟨_, record, present, rfl⟩ := sheds.found found
  rw [Record.shed_id]
  exact keyed present

/-- When the same records go, the same arena is left. -/
theorem view_eq {other : Context} (sheds : Sheds gone context after)
    (sheds' : Sheds gone context other)
    : after.view = other.view := by
  refine Table.ext_get? (fun x => ?_)
  rw [Context.get?_view, Context.get?_view]
  by_cases going : gone x
  · rw [sheds.dead going, sheds'.dead going]
  · rw [sheds.left going, sheds'.left going]

/-- There are no more live records than before. -/
theorem live_length_le (sheds : Sheds gone context after) (keyed : Keyed context.record?)
    : after.live.length ≤ context.live.length := by
  have distinct := Context.live_ids_nodup (sheds.keyed keyed)
  have included : (after.live.map (·.id)).Subset (context.live.map (·.id)) := by
    intro x inside
    obtain ⟨record', live, rfl⟩ := List.mem_map.mp inside
    obtain ⟨y, found⟩ := Context.mem_live_iff.mp live
    obtain ⟨_, record, present, rfl⟩ := sheds.found found
    rw [Record.shed_id]
    exact List.mem_map_of_mem (Context.mem_live_iff.mpr ⟨y, present⟩)
  simpa only [List.length_map] using distinct.length_le_of_subset included

/-- There are fewer live records than before when a live one has gone. -/
theorem live_length_lt {x : ObjectId} (sheds : Sheds gone context after)
    (keyed : Keyed context.record?) (going : gone x) (found : context.record? x = some record)
    : after.live.length < context.live.length := by
  have distinct := Context.live_ids_nodup (sheds.keyed keyed)
  have absent : x ∉ after.live.map (·.id) := by
    intro inside
    obtain ⟨record', live, same⟩ := List.mem_map.mp inside
    obtain ⟨y, found'⟩ := Context.mem_live_iff.mp live
    have own : record'.id = y := sheds.keyed keyed found'
    rw [← same, own] at going
    exact (sheds.found found').1 going
  have included : (x :: after.live.map (·.id)).Subset (context.live.map (·.id)) := by
    intro y inside
    rcases List.mem_cons.mp inside with rfl | inside
    · exact List.mem_map.mpr ⟨record, Context.mem_live_iff.mpr ⟨y, found⟩, keyed found⟩
    · obtain ⟨record', live, rfl⟩ := List.mem_map.mp inside
      obtain ⟨z, found'⟩ := Context.mem_live_iff.mp live
      obtain ⟨_, before, present, rfl⟩ := sheds.found found'
      rw [Record.shed_id]
      exact List.mem_map_of_mem (Context.mem_live_iff.mpr ⟨z, present⟩)
  have bound := (List.nodup_cons.mpr ⟨absent, distinct⟩).length_le_of_subset included
  simp only [List.length_cons, List.length_map] at bound
  exact bound

/-- Taking out a record sheds it alone. -/
theorem takeOut (keyed : Keyed context.record?) (id : ObjectId)
    : Sheds (· = id) context (context.takeOut id) := by
  refine ⟨context.sameFrame_takeOut id, fun {x} same => ?_, fun {x} other => ?_⟩
  · rw [Context.record?_takeOut keyed, if_pos same]
  · rw [Context.record?_takeOut keyed, if_neg other]
    refine Option.map_congr (fun record _ => ?_)
    exact Record.without_eq_shed id record

end Sheds

end EntityStore
