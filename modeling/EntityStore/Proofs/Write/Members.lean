import EntityStore.Proofs.Deletion.Exact
import EntityStore.Proofs.Write.Object

/-! What becomes of the members of a relation.
A relation that is reconciled has a member for each object. Those that it has lost are deleted with what
cascades from them, or they stay as they are and nothing holds them. Deleting them takes nothing
else: whatever is outside of their trees holds none of their records.
-/

namespace EntityStore

variable {types model : Model} {before middle after : Context} {entity target : String}
  {owner x y : ObjectId} {field : Field}

/-- What a relation and its members are after it was brought to hold some objects. -/
structure Reconciled (target : String) (owner : ObjectId) (key : String) (objects : List Object)
    (deleteOld : Bool) (before after : Context)
    : Prop where
  /-- The relation has a member for each object, and none twice. -/
  count : (after.related owner key).length = objects.length
  distinct : (after.related owner key).Nodup
  /-- Every member is live, and was inserted unless it was a member before. -/
  live
    : ∀ member ∈ after.related owner key,
        ∃ record, after.record? member = some record ∧ record.entity = target
  inserted
    : ∀ member ∈ after.related owner key,
        member ∉ before.related owner key
        → before.record? member = none
          ∧ before.nextId.toNat ≤ member.rank
          ∧ member.rank < after.nextId.toNat
  /-- A member that was lost is deleted with all that cascades from it. -/
  deleted
    : deleteOld = true
      → ∀ member ∈ before.related owner key,
          member ∉ after.related owner key
          → after.record? member = none ∧ ∀ x, Taken before [member] x → after.record? x = none
  /-- Or it stays as it is, and nothing holds it. -/
  released
    : deleteOld = false
      → ∀ member ∈ before.related owner key,
          member ∉ after.related owner key
          → (∃ record, before.record? member = some record ∧ after.record? member = some record)
            ∧ Unheld after.record? member
  outside
    : ∀ x,
        (∃ record, before.record? x = some record)
        → ¬ Reaches before.record? owner x
        → after.record? x = before.record? x

-----------------------------------------------------------------------------------------
-- Trees that stay as they are
-----------------------------------------------------------------------------------------

/-- What drags a record along holds it. -/
theorem Drags.linked (drags : Drags before x y) : Linked before.record? x y := by
  obtain ⟨record, found, _, _, relationship, _, _, inside⟩ := drags
  exact ⟨relationship.name, record, found, inside⟩

/-- What is taken is reached. -/
theorem Taken.reaches {ids : List ObjectId} (taken : Taken before ids x)
    : ∃ id ∈ ids, Reaches before.record? id x := by
  obtain ⟨_, id, listed, path⟩ := taken
  exact ⟨id, listed, Relation.ReflTransGen.mono (fun _ _ drags => drags.linked) _ _ path⟩

section Agree

variable {root : ObjectId}
  (agree : ∀ y, Reaches before.record? root y → after.record? y = before.record? y)
include agree

/-- Where the tree of a root stays as it is nothing else comes into it. -/
theorem Reaches.earlier (path : Reaches after.record? root x) : Reaches before.record? root x := by
  induction path with
  | refl => exact .refl
  | tail _ link ih =>
      obtain ⟨key, record, found, inside⟩ := link
      exact ih.tail ⟨key, record, (agree _ ih).symm.trans found, inside⟩

/-- Where the tree of a root stays as it is deleting the root takes what it took. -/
theorem Taken.later (schema : after.schema = before.schema) (taken : Taken before [root] x)
    : Taken after [root] x := by
  obtain ⟨inside, listed, reached⟩ := taken.reaches
  obtain rfl := List.mem_singleton.mp listed
  obtain ⟨⟨record, found⟩, id, listed, path⟩ := taken
  obtain rfl := List.mem_singleton.mp listed
  refine ⟨⟨record, (agree x reached).trans found⟩, id, List.mem_cons_self, ?_⟩
  clear found reached
  induction path with
  | refl => exact .refl
  | @tail holder _ earlier drags ih =>
      obtain ⟨record, found, descriptor, known, rest⟩ := drags
      have reached := Relation.ReflTransGen.mono (fun _ _ drags => Drags.linked drags) _ _ earlier
      refine ih.tail ⟨record, (agree holder reached).trans found, descriptor, ?_, rest⟩
      rw [schema]
      exact known

end Agree

-----------------------------------------------------------------------------------------
-- Members that are left over
-----------------------------------------------------------------------------------------

/-- The identifier is in the tree of a member that is left over. -/
def InLeft (source : RecordSource) (left : List Member) (x : ObjectId) : Prop :=
  ∃ member ∈ left, Reaches source member.id x

/-- Deleting records after settling takes away what is taken, and nothing else. -/
theorem Settled.sheds {objects : List Object} {pool left : List Member} {ids : List ObjectId}
    (settled : Settled types model target pool objects before left ids middle) (owner : ObjectId)
    (key : String) (doomed : List ObjectId)
    : Sheds (Taken (middle.setRelated owner key ids) doomed) (middle.setRelated owner key ids)
        (doomed.foldl Context.delete (middle.setRelated owner key ids)) := by
  have keyed : Keyed (middle.setRelated owner key ids).record? := by
    intro x record present
    obtain ⟨earlier, present, same, _⟩ := Context.found_of_setRelated present
    exact same.trans (settled.forest.keyed present)
  exact (cleared_foldl_delete _ doomed keyed).sheds

section Attached

variable {record : Record} {objects : List Object} {pool left : List Member} {ids : List ObjectId}
  (settled : Settled types model target pool objects before left ids middle)
  (start : Writable types entity owner before) (found : before.record? owner = some record)
  (members : pool.map (·.id) = record.related field.key)
include settled start found members

omit start in
/-- A member that is left over is held by the owner. -/
theorem left_held {member : Member} (inside : member ∈ left)
    : Holds before.record? owner field.key member.id :=
  pool_held found members (settled.sub.subset inside)

/-- The trees of the members that are left over are as they were. -/
theorem attached_left (inside : InLeft before.record? left x)
    : (middle.setRelated owner field.key ids).record? x = before.record? x := by
  obtain ⟨member, inside, path⟩ := inside
  have link : Linked before.record? owner member.id :=
    ⟨_, left_held settled found members inside⟩
  obtain ⟨live, present⟩ := start.forest.live_of_root path (start.forest.live_of_linked link)
  rw [Context.record?_setRelated, if_neg, settled.confined.frame (start.forest.bounded present)]
  · intro touches
    obtain ⟨taken, listed, free, path'⟩ := touches
    refine start.forest.members_apart ⟨_, pool_held found members listed⟩ link (fun same => ?_) path' path
    exact free (List.mem_map.mpr ⟨member, inside, same.symm⟩)
  · rintro rfl
    exact start.forest.not_reaches_owner link path

/-- What is settled is in no tree of a member that is left over. -/
theorem settled_not_inLeft : ∀ x ∈ ids, ¬ InLeft before.record? left x := by
  intro x listed inside
  obtain ⟨member, inside, path⟩ := inside
  have link : Linked before.record? owner member.id :=
    ⟨_, left_held settled found members inside⟩
  rcases settled.origin x listed with ⟨taken, pooled, rfl, free⟩ | ⟨unborn, _⟩
  · refine start.forest.members_apart ⟨_, pool_held found members pooled⟩ link (fun same => ?_) .refl path
    exact free (List.mem_map.mpr ⟨member, inside, same.symm⟩)
  · obtain ⟨_, present⟩ := start.forest.live_of_root path (start.forest.live_of_linked link)
    have := start.forest.bounded present
    omega

/-- A record outside of these trees holds nothing in them, unless it is the owner. -/
theorem member_not_inLeft {holder : ObjectId} {key : String} (held : Holds before.record? holder key x)
    (other : holder ≠ owner ∨ key ≠ field.key) (apart : ¬ InLeft before.record? left holder)
    : ¬ InLeft before.record? left x := by
  intro inside
  obtain ⟨member, inside, path⟩ := inside
  rcases Relation.ReflTransGen.cases_tail path with rfl | ⟨last, before, key', held'⟩
  · obtain ⟨rfl, rfl⟩ := start.forest.sole held (left_held settled found members inside)
    exact other.elim (fun differs => differs rfl) (fun differs => differs rfl)
  · obtain ⟨rfl, _⟩ := start.forest.sole held held'
    exact apart ⟨member, inside, before⟩

/-- The owner is in none of them. -/
theorem owner_not_inLeft : ¬ InLeft before.record? left owner := by
  intro inside
  obtain ⟨member, inside, path⟩ := inside
  exact start.forest.not_reaches_owner ⟨_, left_held settled found members inside⟩ path

-----------------------------------------------------------------------------------------
-- Deleting some of them
-----------------------------------------------------------------------------------------

section Doomed

variable {doomed : List ObjectId} (part : doomed ⊆ left.map (·.id))
  (sheds : Sheds (Taken (middle.setRelated owner field.key ids) doomed)
    (middle.setRelated owner field.key ids) after)
include part sheds

omit sheds in
/-- What goes was in the tree of a member that is left over. -/
theorem inLeft_of_taken (taken : Taken (middle.setRelated owner field.key ids) doomed x)
    : InLeft before.record? left x := by
  obtain ⟨id, listed, path⟩ := taken.reaches
  obtain ⟨member, inside, rfl⟩ := List.mem_map.mp (part listed)
  exact ⟨member, inside,
    .earlier (fun y path => attached_left settled start found members ⟨member, inside, path⟩) path⟩

/-- A record outside of the trees that holds nothing in them stays as it is. -/
theorem spared_of_apart {spared : Record}
    (present : (middle.setRelated owner field.key ids).record? y = some spared)
    (apart : ¬ InLeft before.record? left y)
    (members' : ∀ key, ∀ member ∈ spared.related key, ¬ InLeft before.record? left member)
    : after.record? y = some spared := by
  have stays : ¬ Taken (middle.setRelated owner field.key ids) doomed y :=
    fun taken => apart (inLeft_of_taken settled start found members part taken)
  rw [sheds.left stays, present, Option.map_some, Record.shed_of_untouched]
  intro touched
  obtain ⟨key, member, inside, taken⟩ := touched
  exact members' key member inside (inLeft_of_taken settled start found members part taken)

/-- The owner has what was settled under the key, and is else as it was. -/
theorem owner_spared : after.record? owner = some (Context.reset field.key ids record) := by
  have given := settled_found settled start found members
  have outside := owner_not_inLeft settled start found members
  refine spared_of_apart settled start found members part sheds ?_ outside ?_
  · rw [Context.record?_setRelated, if_pos rfl, given, Option.map_some]
  · intro key member inside
    by_cases same : key = field.key
    · subst same
      rw [(Context.reset_related_perm field.key ids record).mem_iff] at inside
      exact settled_not_inLeft settled start found members member inside
    · rw [Context.reset_related_of_ne same] at inside
      exact member_not_inLeft settled start found members ⟨record, found, inside⟩ (Or.inr same) outside

/-- Every other record that settling leaves as it is stays so, unless it is in one of the trees. -/
theorem spared_of_same {spared : Record} (present : before.record? y = some spared) (other : y ≠ owner)
    (same : middle.record? y = before.record? y) (apart : ¬ InLeft before.record? left y)
    : after.record? y = before.record? y := by
  rw [present]
  refine spared_of_apart settled start found members part sheds ?_ apart ?_
  · rw [Context.record?_setRelated, if_neg other, same, present]
  · intro key member inside
    exact member_not_inLeft settled start found members ⟨spared, present, inside⟩ (Or.inl other) apart

/-- What was settled is live. -/
theorem settled_live : ∀ x ∈ ids, ∃ record, after.record? x = some record ∧ record.entity = target := by
  intro x listed
  obtain ⟨reads, _, storeds⟩ := settled.result
  obtain ⟨live, present, typed⟩ := storeds.live x listed
  have stays : ¬ Taken (middle.setRelated owner field.key ids) doomed x := fun taken =>
    settled_not_inLeft settled start found members x listed
      (inLeft_of_taken settled start found members part taken)
  have other : x ≠ owner := by
    rintro rfl
    exact Nat.lt_irrefl _ (settled_younger settled start found members x listed)
  rw [sheds.left stays, Context.record?_setRelated, if_neg other, present, Option.map_some]
  exact ⟨_, rfl, (Record.shed_entity _ live).trans typed⟩

/-- The owner's relation has what was settled. -/
theorem related_perm : (after.related owner field.key).Perm ids := by
  rw [Context.related_eq (owner_spared settled start found members part sheds)]
  exact Context.reset_related_perm field.key ids record

/-- What is outside of the owner's tree stays as it is. -/
theorem outside_spared (live : ∃ record, before.record? x = some record)
    (outside : ¬ Reaches before.record? owner x)
    : after.record? x = before.record? x := by
  obtain ⟨spared, present⟩ := live
  have beyond {member : ObjectId} (held : Holds before.record? owner field.key member)
      : ¬ Reaches before.record? member x :=
    fun path => outside (path.head ⟨_, held⟩)
  refine spared_of_same settled start found members part sheds present ?_ ?_ ?_
  · rintro rfl
    exact outside .refl
  · refine settled.confined.frame (start.forest.bounded present) (fun touches => ?_)
    obtain ⟨member, inside, _, path⟩ := touches
    exact beyond (pool_held found members inside) path
  · intro inside
    obtain ⟨member, inside, path⟩ := inside
    exact beyond (left_held settled found members inside) path

end Doomed

-----------------------------------------------------------------------------------------
-- All of them
-----------------------------------------------------------------------------------------

/-- Where what is left over is deleted, each member of it goes with all that cascades from it. -/
theorem left_deleted
    (sheds : Sheds (Taken (middle.setRelated owner field.key ids) (left.map (·.id)))
      (middle.setRelated owner field.key ids) after)
    {member : Member} (inside : member ∈ left) (taken : Taken before [member.id] x)
    : after.record? x = none := by
  have confined := attach_confined settled start found members
  refine sheds.dead (taken_iff_exists.mpr ⟨member.id, List.mem_map_of_mem inside, ?_⟩)
  refine taken.later (fun y path => ?_) confined.schema
  exact attached_left settled start found members ⟨member, inside, path⟩

/-- Where it is kept, nothing holds it. -/
theorem left_released {member : Member} (inside : member ∈ left)
    : Unheld (middle.setRelated owner field.key ids).record? member.id := by
  have held := left_held settled found members inside
  intro holder link
  obtain ⟨key, still⟩ := link
  rw [holds_setRelated (settled_found settled start found members)] at still
  split at still
  · exact left_not_settled settled start found members inside still
  · next elsewhere =>
      have known := start.forest.rank_lt_of_linked ⟨_, held⟩
      exact elsewhere (start.forest.sole (settled.confined.inherits known still) held)

/-- Objects that were settled and attached are all that the relation holds, once what is left over is
deleted or not.
-/
theorem Settled.reconciled (deleteOld : Bool)
    : Reconciled target owner field.key objects deleteOld before
        ((Member.discarded deleteOld left).foldl Context.delete
          (middle.setRelated owner field.key ids)) := by
  have part := Member.discarded_subset deleteOld left
  have sheds := settled.sheds owner field.key (Member.discarded deleteOld left)
  have perm := related_perm settled start found members part sheds
  have earlier : before.related owner field.key = pool.map (·.id) :=
    (Context.related_eq found _).trans members.symm
  have leaves {member : ObjectId} (inside : member ∈ before.related owner field.key)
      (lost : member ∉ ids)
      : ∃ spare ∈ left, spare.id = member := by
    rw [earlier] at inside
    obtain ⟨spare, pooled, rfl⟩ := List.mem_map.mp inside
    exact ⟨spare, (settled.covers spare pooled).resolve_right lost, rfl⟩
  refine { count := ?_, distinct := perm.nodup_iff.mpr settled.distinct, live := ?_, inserted := ?_,
           deleted := ?_, released := ?_,
           outside := fun x => outside_spared settled start found members part sheds }
  · obtain ⟨reads, backs, storeds⟩ := settled.result
    rw [perm.length_eq, (Object.allReadBack_iff.mp backs).length_eq,
      (Object.allStored_iff.mp storeds).length_eq]
  · exact fun member inside =>
      settled_live settled start found members part sheds member (perm.mem_iff.mp inside)
  · intro member inside fresh
    have listed := perm.mem_iff.mp inside
    rcases settled.origin member listed with ⟨spare, pooled, rfl, _⟩ | ⟨unborn, _⟩
    · exact absurd (earlier ▸ List.mem_map_of_mem pooled) fresh
    · obtain ⟨_, _, storeds⟩ := settled.result
      obtain ⟨live, present, _⟩ := storeds.live member listed
      refine ⟨?_, unborn, ?_⟩
      · refine Option.eq_none_iff_forall_ne_some.mpr (fun record found => ?_)
        have := start.forest.bounded found
        omega
      · rw [sheds.frame.nextId, (Context.sameFrame_setRelated middle owner field.key ids).nextId]
        exact settled.forest.bounded present
  · rintro rfl member inside lost
    rw [perm.mem_iff] at lost
    obtain ⟨spare, inside', rfl⟩ := leaves inside lost
    have gone {x : ObjectId} (taken : Taken before [spare.id] x) :=
      left_deleted settled start found members sheds inside' taken
    have live := start.forest.live_of_linked ⟨_, left_held settled found members inside'⟩
    exact ⟨gone ⟨live, _, List.mem_cons_self, .refl⟩, fun x => gone⟩
  · rintro rfl member inside lost
    rw [perm.mem_iff] at lost
    obtain ⟨spare, inside', rfl⟩ := leaves inside lost
    obtain ⟨live, present⟩ :=
      start.forest.live_of_linked ⟨_, left_held settled found members inside'⟩
    refine ⟨⟨live, present, ?_⟩, left_released settled start found members inside'⟩
    exact (attached_left settled start found members ⟨spare, inside', .refl⟩).trans present

end Attached

-----------------------------------------------------------------------------------------
-- Reconciling
-----------------------------------------------------------------------------------------

/-- Where the relation already holds the objects, nothing has to become of anything. -/
theorem Reconciled.of_unchanged {key : String} {objects : List Object} {deleteOld : Bool}
    (count : (before.related owner key).length = objects.length)
    (live
      : ∀ member ∈ before.related owner key,
          ∃ record, before.record? member = some record ∧ record.entity = target)
    (distinct : (before.related owner key).Nodup)
    : Reconciled target owner key objects deleteOld before before :=
  { count, distinct, live
    inserted := fun _ inside fresh => absurd inside fresh
    deleted := fun _ _ inside lost => absurd inside lost
    released := fun _ _ inside lost => absurd inside lost
    outside := fun _ _ _ => rfl }

/-- Reconciling gives up or leaves the relation with a member for each object. -/
theorem reconcile_reconciles (lawful : model.Lawful types) (known : model.Knows entity)
    (start : Writable types entity owner before) (inside : field ∈ (model.entity entity).fields)
    (kind : field.kind = .reference target) {record : Record}
    (found : before.record? owner = some record) {objects : List Object}
    (fits : Object.allFit model (model.entity target) objects = true) (unordered deleteOld : Bool)
    : (Object.reconcile Object.equals model target owner field.key objects unordered deleteOld
          (Object.settle model target objects)).Ensures before
        (fun _ after => Reconciled target owner field.key objects deleteOld before after) := by
  obtain ⟨_, known', plain⟩ := lawful.reference known inside kind
  have stored := start.members_stored lawful known inside kind
  obtain ⟨members, answers, listed, faithful⟩ := Member.ofIds_of_stored start.forest _ stored
  have earlier := Context.related_eq found field.key
  refine Object.reconcile_rule answers (fun same => .of_unchanged ?_ ?_ ?_) ?_
  · obtain ⟨arranged, perm, equal⟩ := Member.unchanged_arranged same
    rw [← listed, List.length_map, ← perm.length_eq, ← equal.length_eq]
  · intro member inside
    obtain ⟨object, stored⟩ := stored member inside
    exact stored.live
  · rw [earlier]
    exact start.forest.nodup found
  · refine (settle_ensures lawful known' plain objects (fun object _ => write_ensures lawful object) fits
      (start.pool faithful listed)).mono (fun _ _ settled => ?_)
    exact settled.reconciled start found (listed.trans earlier) deleteOld

end EntityStore
