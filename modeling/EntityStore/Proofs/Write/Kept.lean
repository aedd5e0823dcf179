import EntityStore.Proofs.Object.Claims
import EntityStore.Proofs.Write.Members

/-! Members that are kept as they are.
A member that an equal object claims stays a member, and its tree is not touched: not by the claim, not
by what other objects claim, and not when what is left over is deleted.
-/

namespace EntityStore

variable {types model : Model} {context before middle after : Context} {entity target : String}
  {owner id : ObjectId} {field : Field}

-----------------------------------------------------------------------------------------
-- Trees
-----------------------------------------------------------------------------------------

/-- Every record in the tree of a root is as it was. -/
def Untouched (before after : Context) (root : ObjectId) : Prop :=
  ∀ x, Reaches before.record? root x → after.record? x = before.record? x

theorem Untouched.refl (context : Context) (root : ObjectId) : Untouched context context root :=
  fun _ _ => rfl

theorem Untouched.trans {root : ObjectId} (first : Untouched before middle root)
    (later : Untouched middle after root)
    : Untouched before after root :=
  fun x path => (later x (path.congr first)).trans (first x path)

-----------------------------------------------------------------------------------------
-- Settling
-----------------------------------------------------------------------------------------

/-- A claim that answers leaves the members that are left to other objects, and an equal member is claimed
without anything being written.
-/
theorem Object.claim_answers {object : Object} {pool : List Member} {answer : ObjectId × List Member}
    (answers : claim model target object pool context = .ok (answer, after))
    : answer.2 = (Member.claimed? (model.entity target) object pool).2
      ∧ ∀ member,
          (Member.claimed? (model.entity target) object pool).1 = some member
          → answer.1 = member.id ∧ after = context := by
  unfold Member.claimed?
  cases equal : Member.take? (Member.equals object) pool with
  | some taken =>
      simp only [claim, equal] at answers
      cases answers
      exact ⟨rfl, fun member same => Option.some.inj same ▸ ⟨rfl, rfl⟩⟩
  | none =>
      cases identified : Member.take? (Member.identifies (model.entity target) object) pool with
      | some taken =>
          simp only [claim, equal, identified, pure_bind] at answers
          obtain ⟨_, _, _, ends⟩ := Job.exists_of_bind answers
          cases ends
          exact ⟨rfl, fun member missing => nomatch missing⟩
      | none =>
          simp only [claim, equal, identified, pure_bind] at answers
          obtain ⟨_, _, _, writes⟩ := Job.exists_of_bind answers
          obtain ⟨_, _, _, ends⟩ := Job.exists_of_bind writes
          cases ends
          exact ⟨rfl, fun member missing => nomatch missing⟩

/-- The members that objects claim by being equal to them are settled, and their trees are as they were. -/
structure KeepsClaimed (type : EntityType) (pool : List Member) (objects : List Object) (before : Context)
    (ids : List ObjectId) (after : Context)
    : Prop where
  listed : ∀ member ∈ Member.kept type objects pool, member.id ∈ ids
  untouched : ∀ member ∈ Member.kept type objects pool, Untouched before after member.id

/-- Settling other objects keeps a member that was claimed as it is, and what they keep was kept by the
claim.
-/
theorem KeepsClaimed.cons {pool rest left : List Member} {object : Object} {objects : List Object}
    {ids : List ObjectId} (start : Pool types model target owner before pool)
    (claimed : Claimed types model target pool object before id rest middle)
    (leaves : rest = (Member.claimed? (model.entity target) object pool).2)
    (equal
      : ∀ member,
          (Member.claimed? (model.entity target) object pool).1 = some member
          → id = member.id ∧ middle = before)
    (settled : Settled types model target rest objects middle left ids after)
    (keeps : KeepsClaimed (model.entity target) rest objects middle ids after)
    : KeepsClaimed (model.entity target) pool (object :: objects) before (id :: ids) after := by
  have kept_cons {member : Member}
      (inside : member ∈ Member.kept (model.entity target) (object :: objects) pool)
      : (id = member.id ∧ middle = before)
        ∨ member ∈ Member.kept (model.entity target) objects rest := by
    rw [Member.kept, ← leaves, List.mem_append, Option.mem_toList] at inside
    exact inside.imp_left (equal member)
  refine ⟨fun member inside => ?_, fun member inside => ?_⟩
  · rcases kept_cons inside with ⟨rfl, _⟩ | inside
    · exact List.mem_cons_self
    · exact List.mem_cons_of_mem id (keeps.listed member inside)
  · rcases kept_cons inside with ⟨rfl, rfl⟩ | inside
    · obtain ⟨_, _, stored⟩ := claimed.result
      obtain ⟨record, found, _⟩ := stored.live
      refine settled.confined.frame_reaches claimed.forest (claimed.forest.bounded found) ?_
      rintro x path ⟨other, inside, _, path'⟩
      exact claimed.apart_after start inside path path'
    · have inRest := (Member.kept_subperm objects rest).subset inside
      have given := start.forest.rank_lt_of_linked (start.linked member (claimed.sub.subset inRest))
      have first : Untouched before middle member.id :=
        claimed.confined.frame_reaches start.forest given
          (fun x path touched => claimed.apart start inRest touched path)
      exact first.trans (keeps.untouched member inside)

/-- Objects that can be written are settled, and the members that they equal are kept.
Witness: induction on the objects; the tree of a kept member is out of reach of every other claim.
-/
theorem settle_keeps (lawful : model.Lawful types) (known : model.Knows target)
    (plain : (model.entity target).Plain) (objects : List Object)
    (each : ∀ object ∈ objects, Writes types model object)
    (fits : Object.allFit model (model.entity target) objects = true) {pool : List Member}
    (start : Pool types model target owner context pool)
    : (Object.settle model target objects pool).Ensures context
        (fun answer after =>
          Settled types model target pool objects context answer.1 answer.2 after
          ∧ KeepsClaimed (model.entity target) pool objects context answer.2 after) := by
  induction objects generalizing context pool with
  | nil =>
      rw [Object.settle]
      exact .pure ⟨.nil start, fun _ inside => absurd inside List.not_mem_nil,
        fun _ inside => absurd inside List.not_mem_nil⟩
  | cons object objects ih =>
      simp only [Object.allFit, Bool.and_eq_true] at fits
      rw [Object.settle_cons]
      refine (claim_ensures lawful known plain (each object List.mem_cons_self) fits.1
        start).answering.bind ?_
      rintro ⟨id, rest⟩ middle ⟨claimed, answers⟩
      obtain ⟨leaves, equal⟩ := Object.claim_answers answers
      refine (ih (fun other inside => each other (.tail _ inside)) fits.2
        (claimed.remaining start)).bind ?_
      rintro ⟨left, ids⟩ after ⟨settled, keeps⟩
      exact Job.Ensures.pure
        ⟨Settled.cons start claimed settled, .cons start claimed leaves equal settled keeps⟩

-----------------------------------------------------------------------------------------
-- Attaching and deleting
-----------------------------------------------------------------------------------------

section Attached

variable {record : Record} {objects : List Object} {pool left : List Member} {ids : List ObjectId}
  (settled : Settled types model target pool objects before left ids middle)
  (start : Writable types entity owner before) (found : before.record? owner = some record)
  (members : pool.map (·.id) = record.related field.key)
include settled start found members

/-- The tree of a settled member that settling did not touch stays as it is when some of the members that
are left over are deleted.
-/
theorem untouched_of_settled {doomed : List ObjectId} (part : doomed ⊆ left.map (·.id))
    (sheds : Sheds (Taken (middle.setRelated owner field.key ids) doomed)
      (middle.setRelated owner field.key ids) after)
    {member : Member} (inside : member ∈ pool) (listed : member.id ∈ ids)
    (untouched : Untouched before middle member.id)
    : Untouched before after member.id := by
  intro x path
  have link : Linked before.record? owner member.id := ⟨_, pool_held found members inside⟩
  obtain ⟨spared, present⟩ := start.forest.live_of_root path (start.forest.live_of_linked link)
  refine spared_of_same settled start found members part sheds present ?_ (untouched x path) ?_
  · rintro rfl
    exact start.forest.not_reaches_owner link path
  · rintro ⟨spare, inside', path'⟩
    have link' : Linked before.record? owner spare.id := ⟨_, left_held settled found members inside'⟩
    refine start.forest.members_apart link link' (fun same => ?_) path path'
    exact left_not_settled settled start found members inside' (same ▸ listed)

end Attached

-----------------------------------------------------------------------------------------
-- Reconciling
-----------------------------------------------------------------------------------------

/-- Of the members of a relation that equal an object, at least so many are members still, and their trees
are as they were.
-/
def KeepsAlike (x : Object) (count : Nat) (members : List Member) (owner : ObjectId) (key : String)
    (before after : Context)
    : Prop :=
  ∃ kept : List Member,
    kept.Sublist members
    ∧ count ≤ kept.length
    ∧ ∀ member ∈ kept,
        member.equals x = true
        ∧ member.id ∈ after.related owner key
        ∧ Untouched before after member.id

/-- Members that objects claim by being equal to them account for those that are kept. -/
theorem KeepsAlike.of_kept {type : EntityType} {objects : List Object} {members : List Member}
    {key : String}
    (each
      : ∀ member ∈ Member.kept type objects members,
          member.id ∈ after.related owner key ∧ Untouched before after member.id)
    (x : Object)
    : KeepsAlike x
        (min (objects.countP (·.equals x))
          (members.countP (Member.equals x) - x.rivalsBefore type objects))
        members owner key before after := by
  obtain ⟨kept, perm, sub⟩ : (Member.kept type objects members).Subperm members :=
    Member.kept_subperm objects members
  refine ⟨kept.filter (Member.equals x), List.filter_sublist.trans sub, ?_, ?_⟩
  · rw [← List.countP_eq_length_filter, perm.countP_eq]
    exact Member.min_le_countP_kept x objects members
  · intro member inside
    obtain ⟨inside, equal⟩ := List.mem_filter.mp inside
    exact ⟨equal, each member (perm.mem_iff.mp inside)⟩

/-- Where nothing is written all members are kept. -/
theorem KeepsAlike.of_unchanged {members : List Member} {key : String}
    (listed : members.map (·.id) = before.related owner key) (x : Object) {count : Nat}
    (few : count ≤ members.countP (Member.equals x))
    : KeepsAlike x count members owner key before before := by
  refine ⟨members.filter (Member.equals x), List.filter_sublist, ?_, fun member inside => ?_⟩
  · rwa [← List.countP_eq_length_filter]
  · obtain ⟨inside, equal⟩ := List.mem_filter.mp inside
    exact ⟨equal, listed ▸ List.mem_map_of_mem inside, .refl _ _⟩

/-- Reconciling gives up, or keeps the members that objects claim by being equal to them. -/
theorem reconcile_keeps (lawful : model.Lawful types) (known : model.Knows entity)
    (start : Writable types entity owner before) (inside : field ∈ (model.entity entity).fields)
    (kind : field.kind = .reference target) {record : Record}
    (found : before.record? owner = some record) {objects : List Object}
    (fits : Object.allFit model (model.entity target) objects = true) (unordered deleteOld : Bool)
    : ∃ members,
        Member.ofIds model target before (before.related owner field.key) = .ok members
        ∧ members.map (·.id) = before.related owner field.key
        ∧ (Object.reconcile Object.equals model target owner field.key objects unordered deleteOld
              (Object.settle model target objects)).Ensures before
            (fun _ after =>
              ∀ x,
                KeepsAlike x
                  (min (objects.countP (·.equals x))
                    (members.countP (Member.equals x) - x.rivalsBefore (model.entity target) objects))
                  members owner field.key before after) := by
  obtain ⟨_, known', plain⟩ := lawful.reference known inside kind
  have stored := start.members_stored lawful known inside kind
  obtain ⟨members, answers, listed, faithful⟩ := Member.ofIds_of_stored start.forest _ stored
  refine ⟨members, answers, listed, ?_⟩
  refine Object.reconcile_rule answers (fun _ x => .of_unchanged listed x (by omega)) ?_
  refine (settle_keeps lawful known' plain objects (fun object _ => write_ensures lawful object) fits
    (start.pool faithful listed)).mono ?_
  rintro ⟨left, ids⟩ middle ⟨settled, keeps⟩
  have earlier := listed.trans (Context.related_eq found field.key)
  have part := Member.discarded_subset deleteOld left
  have sheds := settled.sheds owner field.key (Member.discarded deleteOld left)
  refine .of_kept (fun member inside => ?_)
  have settledToo := keeps.listed member inside
  refine ⟨(related_perm settled start found earlier part sheds).mem_iff.mpr settledToo, ?_⟩
  exact untouched_of_settled settled start found earlier part sheds
    ((Member.kept_subperm objects members).subset inside) settledToo (keeps.untouched member inside)

end EntityStore
