import EntityStore.Proofs.Deletion.Shedding
import EntityStore.Query

/-! Deletion takes the records that cascading relationships reach.
Nothing is assumed of the records but that each stands under its own identifier: relations may form
cycles, share members, list them twice and name records that are not there. A deletion walks through
records while it takes them out, so what a later step reaches is compared with what was reached at
the start.
-/

namespace EntityStore

variable {context middle after : Context} {id x : ObjectId} {ids : List ObjectId}

-----------------------------------------------------------------------------------------
-- What a deletion reaches
-----------------------------------------------------------------------------------------

/-- A live record holds an identifier in a relationship of its entity that cascades. -/
def Drags (context : Context) (owner member : ObjectId) : Prop :=
  ∃ record, context.record? owner = some record
    ∧ ∃ descriptor, context.schema.entity? record.entity = some descriptor
      ∧ ∃ relationship ∈ descriptor.relationships,
          relationship.deleteRule = .cascade ∧ member ∈ record.related relationship.name

/-- The live records that are reached from some of the identifiers along relationships that cascade. -/
def Taken (context : Context) (ids : List ObjectId) (x : ObjectId) : Prop :=
  (∃ record, context.record? x = some record)
  ∧ ∃ id ∈ ids, Relation.ReflTransGen (Drags context) id x

/-- A deletion goes on to what its record drags along. -/
theorem mem_cascading_iff {record : Record} (found : context.record? id = some record)
    {member : ObjectId}
    : member ∈ context.cascading record ↔ Drags context id member := by
  simp only [Drags, found, Option.some.injEq, exists_eq_left', Context.cascading]
  cases known : context.schema.entity? record.entity with
  | none => simp
  | some descriptor =>
      simp only [Option.some.injEq, exists_eq_left', EntityDescriptor.cascadingKeys,
        List.mem_flatMap, List.mem_map, List.mem_filter, decide_eq_true_eq]
      constructor
      · intro given
        obtain ⟨_, ⟨relationship, ⟨listed, cascades⟩, rfl⟩, inside⟩ := given
        exact ⟨relationship, listed, cascades, inside⟩
      · intro given
        obtain ⟨relationship, listed, cascades, inside⟩ := given
        exact ⟨_, ⟨relationship, ⟨listed, cascades⟩, rfl⟩, inside⟩

/-- Nothing is dragged along by a record that is not there. -/
theorem Drags.live {owner member : ObjectId} (drags : Drags context owner member)
    : ∃ record, context.record? owner = some record := by
  obtain ⟨record, found, _⟩ := drags
  exact ⟨record, found⟩

/-- A record that is not there takes nothing with it. -/
theorem not_taken_of_absent (absent : context.record? id = none) : ¬ Taken context [id] x := by
  intro taken
  obtain ⟨⟨record, found⟩, root, listed, path⟩ := taken
  obtain rfl := List.mem_singleton.mp listed
  rcases Relation.ReflTransGen.cases_head path with rfl | ⟨_, drags, _⟩
  · rw [absent] at found
    contradiction
  · obtain ⟨record, found⟩ := drags.live
    rw [absent] at found
    contradiction

-----------------------------------------------------------------------------------------
-- What is reached when some records have gone
-----------------------------------------------------------------------------------------

section Sheds

variable {gone : ObjectId → Prop}

/-- What drags and is dragged along after some records have gone did so before, and is not among
them. -/
theorem Sheds.drags_iff (sheds : Sheds gone context after) {owner member : ObjectId}
    : Drags after owner member ↔ Drags context owner member ∧ ¬ gone owner ∧ ¬ gone member := by
  unfold Drags
  rw [sheds.frame.schema]
  constructor
  · intro given
    obtain ⟨record', found, descriptor, known, relationship, listed, cascades, inside⟩ := given
    obtain ⟨staying, record, present, rfl⟩ := sheds.found found
    rw [Record.shed_entity] at known
    rw [Record.mem_related_shed] at inside
    exact ⟨⟨record, present, descriptor, known, relationship, listed, cascades, inside.1⟩,
      staying, inside.2⟩
  · intro given
    obtain ⟨⟨record, present, descriptor, known, relationship, listed, cascades, inside⟩,
      staying, stays⟩ := given
    refine ⟨record.shed gone, by rw [sheds.left staying, present, Option.map_some], descriptor, ?_,
      relationship, listed, cascades, Record.mem_related_shed.mpr ⟨inside, stays⟩⟩
    rw [Record.shed_entity]
    exact known

theorem Sheds.path (sheds : Sheds gone context after)
    (path : Relation.ReflTransGen (Drags after) id x)
    : Relation.ReflTransGen (Drags context) id x :=
  Relation.ReflTransGen.mono (fun _ _ drags => (sheds.drags_iff.mp drags).1) _ _ path

/-- What is taken after some records have gone would have been taken before. -/
theorem Sheds.taken (sheds : Sheds gone context after) (taken : Taken after ids x)
    : Taken context ids x := by
  obtain ⟨live, root, listed, path⟩ := taken
  exact ⟨(sheds.live_iff.mp live).1, root, listed, sheds.path path⟩

end Sheds

/-- The record itself and then what its members take is what the record takes.
Witness: the part of a path after its last visit to the record leads through other records only.
-/
theorem taken_step {record : Record} (keyed : Keyed context.record?)
    (found : context.record? id = some record)
    : x = id ∨ Taken (context.takeOut id) (context.cascading record) x ↔ Taken context [id] x := by
  have sheds := Sheds.takeOut keyed id
  constructor
  · intro given
    rcases given with rfl | taken
    · exact ⟨⟨record, found⟩, x, List.mem_cons_self, .refl⟩
    · obtain ⟨live, member, inside, path⟩ := sheds.taken taken
      exact ⟨live, id, List.mem_cons_self, path.head ((mem_cascading_iff found).mp inside)⟩
  · intro taken
    obtain ⟨live, root, listed, path⟩ := taken
    obtain rfl := List.mem_singleton.mp listed
    have rest : x = root ∨ ∃ member ∈ context.cascading record,
        Relation.ReflTransGen (Drags (context.takeOut root)) member x := by
      clear live
      induction path with
      | refl => exact Or.inl rfl
      | @tail owner member before drags ih =>
          by_cases back : member = root
          · exact Or.inl back
          · rcases ih with rfl | ⟨first, inside, path⟩
            · exact Or.inr ⟨member, (mem_cascading_iff found).mpr drags, .refl⟩
            · by_cases here : owner = root
              · subst here
                exact Or.inr ⟨member, (mem_cascading_iff found).mpr drags, .refl⟩
              · exact Or.inr ⟨first, inside, path.tail (sheds.drags_iff.mpr ⟨drags, here, back⟩)⟩
    by_cases same : x = root
    · exact Or.inl same
    · obtain ⟨first, inside, path⟩ := rest.resolve_left same
      exact Or.inr ⟨sheds.live_iff.mpr ⟨live, same⟩, first, inside, path⟩

/-- What a record takes and what the others take once that has gone is what all of them take.
Witness: what is taken is closed under dragging, so a path to a record that is left never enters it.
-/
theorem taken_cons (sheds : Sheds (Taken context [id]) context middle)
    : Taken context [id] x ∨ Taken middle ids x ↔ Taken context (id :: ids) x := by
  constructor
  · intro given
    rcases given with ⟨live, root, listed, path⟩ | taken
    · obtain rfl := List.mem_singleton.mp listed
      exact ⟨live, root, List.mem_cons_self, path⟩
    · obtain ⟨live, root, listed, path⟩ := sheds.taken taken
      exact ⟨live, root, List.mem_cons_of_mem id listed, path⟩
  · intro taken
    obtain ⟨live, root, listed, path⟩ := taken
    rcases List.mem_cons.mp listed with rfl | listed
    · exact Or.inl ⟨live, root, List.mem_cons_self, path⟩
    · have rest : (∃ record, context.record? x = some record)
          → Taken context [id] x ∨ Relation.ReflTransGen (Drags middle) root x := by
        clear live
        induction path with
        | refl => exact fun _ => Or.inr .refl
        | @tail owner member before drags ih =>
            intro live
            rcases ih drags.live with ⟨_, first, same, path⟩ | path
            · exact Or.inl ⟨live, first, same, path.tail drags⟩
            · by_cases here : Taken context [id] member
              · exact Or.inl here
              · refine Or.inr (path.tail (sheds.drags_iff.mpr ⟨drags, fun taken => ?_, here⟩))
                obtain ⟨_, first, same, path⟩ := taken
                exact here ⟨live, first, same, path.tail drags⟩
      by_cases here : Taken context [id] x
      · exact Or.inl here
      · exact Or.inr ⟨sheds.live_iff.mpr ⟨live, here⟩, root, listed, (rest live).resolve_left here⟩

-----------------------------------------------------------------------------------------
-- Deletions that come to an end
-----------------------------------------------------------------------------------------

/-- Deleting the identifiers one after another comes to an end with a context: a record is taken out,
and then what it drags along is deleted before the next identifier. No depth is granted. -/
inductive Deletes : Context → List ObjectId → Context → Prop
  | nil {context : Context} : Deletes context [] context
  | absent {context after : Context} {id : ObjectId} {ids : List ObjectId}
    (absent : context.record? id = none) (rest : Deletes context ids after)
    : Deletes context (id :: ids) after
  | present {context middle after : Context} {id : ObjectId} {ids : List ObjectId}
    {record : Record} (found : context.record? id = some record)
    (members : Deletes (context.takeOut id) (context.cascading record) middle)
    (rest : Deletes middle ids after)
    : Deletes context (id :: ids) after

/-- There is one context at most that deletions end with. -/
theorem Deletes.unique {other : Context} (left : Deletes context ids after)
    (right : Deletes context ids other)
    : after = other := by
  induction left generalizing other with
  | nil =>
      cases right
      rfl
  | absent absent _ ih =>
      cases right with
      | absent _ rest => exact ih rest
      | present found _ _ =>
          rw [absent] at found
          contradiction
  | present found _ _ members rest =>
      cases right with
      | absent absent _ =>
          rw [absent] at found
          contradiction
      | present found' within beyond =>
          obtain rfl := Option.some.inj (found.symm.trans found')
          obtain rfl := members within
          exact rest beyond

/-- Deletions of lists come to an end one after another. -/
theorem Deletes.cons (first : Deletes context [id] middle) (rest : Deletes middle ids after)
    : Deletes context (id :: ids) after := by
  cases first with
  | absent absent done =>
      cases done
      exact .absent absent rest
  | present found members done =>
      cases done
      exact .present found members rest

/-- Deleting the identifiers comes to an end and takes what they take at the start. -/
structure Cleared (context : Context) (ids : List ObjectId) (after : Context) : Prop where
  ends : Deletes context ids after
  sheds : Sheds (Taken context ids) context after

theorem Cleared.absent (absent : context.record? id = none) : Cleared context [id] context where
  ends := .absent absent .nil
  sheds := (Sheds.refl context).congr (fun _ => iff_of_false not_false (not_taken_of_absent absent))

/-- Deleting identifiers one after another takes what they take at the start, provided that deleting
one does as long as there are few live records.
Witness: induction on the list; the first deletion leaves no more live records than there were.
-/
theorem Cleared.foldl (step : Context → ObjectId → Context) (bound : Nat)
    (clears
      : ∀ context id,
          Keyed context.record?
          → context.live.length ≤ bound
          → Cleared context [id] (step context id))
    (context : Context) (keyed : Keyed context.record?) (few : context.live.length ≤ bound)
    (ids : List ObjectId)
    : Cleared context ids (ids.foldl step context) := by
  induction ids generalizing context with
  | nil =>
      refine ⟨.nil, (Sheds.refl context).congr (fun x => iff_of_false not_false ?_)⟩
      intro taken
      obtain ⟨_, root, listed, _⟩ := taken
      exact List.not_mem_nil listed
  | cons id ids ih =>
      have first := clears context id keyed few
      have fewer := first.sheds.live_length_le keyed
      have rest := ih (step context id) (first.sheds.keyed keyed) (Nat.le_trans fewer few)
      refine ⟨first.ends.cons rest.ends, ?_⟩
      exact (first.sheds.trans rest.sheds).congr (fun x => taken_cons first.sheds)

/-- A deletion that is granted as many levels as there are live records needs no more.
Witness: induction on the depth; a record that is taken out leaves fewer live records.
-/
theorem cleared_deleteWithin (depth : Nat) (context : Context) (id : ObjectId)
    (keyed : Keyed context.record?) (few : context.live.length ≤ depth)
    : Cleared context [id] (Context.deleteWithin depth id context) := by
  induction depth generalizing context id with
  | zero =>
      refine .absent (Option.eq_none_iff_forall_ne_some.mpr (fun record found => ?_))
      have live := Context.mem_live_iff.mpr ⟨id, found⟩
      rw [List.length_eq_zero_iff.mp (Nat.le_zero.mp few)] at live
      exact List.not_mem_nil live
  | succ depth ih =>
      unfold Context.deleteWithin
      cases found : context.record? id with
      | none => exact .absent found
      | some record =>
          have out := Sheds.takeOut keyed id
          have fewer := out.live_length_lt keyed rfl found
          have members := Cleared.foldl
            (fun context target => Context.deleteWithin depth target context) depth ih
            (context.takeOut id) (out.keyed keyed) (by omega) (context.cascading record)
          refine ⟨.present found members.ends .nil, ?_⟩
          exact (out.trans members.sheds).congr (fun x => taken_step keyed found)

theorem cleared_delete (context : Context) (id : ObjectId) (keyed : Keyed context.record?)
    : Cleared context [id] (context.delete id) :=
  cleared_deleteWithin _ context id keyed (Nat.le_refl _)

theorem cleared_foldl_delete (context : Context) (ids : List ObjectId)
    (keyed : Keyed context.record?)
    : Cleared context ids (ids.foldl Context.delete context) :=
  .foldl Context.delete context.live.length (fun context id keyed _ => cleared_delete context id keyed)
    context keyed (Nat.le_refl _) ids

end EntityStore
