import EntityStore.Proofs.Write.Basic

/-! Settling the members of a relation.
Each object in turn claims a member of the pool or gets a new record. The trees of the members that are
still in the pool are not touched, because the trees of two members of one owner have nothing in
common and a new record is held by nothing.
-/

namespace EntityStore

variable {types model : Model} {context before middle after : Context} {owner id : ObjectId}
  {target : String}

-----------------------------------------------------------------------------------------
-- Pools
-----------------------------------------------------------------------------------------

/-- The members of the pool are distinct faithful members of one owner, and what is below them is
complete.
-/
structure Pool (types model : Model) (target : String) (owner : ObjectId) (context : Context)
    (pool : List Member)
    : Prop where
  forest : Forest types context
  given : owner.rank < context.nextId.toNat
  distinct : (pool.map (·.id)).Nodup
  linked : ∀ member ∈ pool, Linked context.record? owner member.id
  faithful : ∀ member ∈ pool, member.Faithful model context.record? target
  tidy : ∀ member ∈ pool, Tidy types context member.id

/-- The context after one object has claimed a member or was given a new record. -/
structure Claimed (types model : Model) (target : String) (pool : List Member) (object : Object)
    (before : Context) (id : ObjectId) (rest : List Member) (after : Context)
    : Prop where
  forest : Forest types after
  confined : Confined types (Reaches before.record? id) before after
  origin
    : (∃ member, member.id = id ∧ pool.Perm (member :: rest))
      ∨ (rest = pool ∧ before.nextId.toNat ≤ id.rank ∧ Unheld after.record? id)
  sub : rest.Sublist pool
  result
    : ∃ read,
        Object.ReadsBack model target object read
        ∧ Object.Stored model after.record? target read id

/-- An identifier that was not given out yet reaches nothing but itself. -/
theorem Forest.reaches_of_unborn (forest : Forest types context)
    (unborn : context.nextId.toNat ≤ id.rank) {x : ObjectId}
    (path : Reaches context.record? id x)
    : x = id := by
  refine path.eq_of_dead ?_
  cases found : context.record? id with
  | none => rfl
  | some record =>
      have := forest.bounded found
      omega

namespace Claimed

variable {pool rest : List Member} {object : Object}
  (claimed : Claimed types model target pool object before id rest after)
  (start : Pool types model target owner before pool)
include claimed start

/-- The claimed identifier is none of those that are left. -/
theorem other {member : Member} (inside : member ∈ rest) : member.id ≠ id := by
  intro same
  obtain rfl := same
  rcases claimed.origin with ⟨taken, same, perm⟩ | ⟨rfl, unborn, _⟩
  · have distinct := (perm.map (·.id)).nodup_iff.mp start.distinct
    rw [List.map_cons, List.nodup_cons, same] at distinct
    exact distinct.1 (List.mem_map_of_mem inside)
  · have := start.forest.rank_lt_of_linked (start.linked member inside)
    omega

omit start in
/-- Every member of the pool is the claimed one or is left. -/
theorem covers {member : Member} (inside : member ∈ pool) : member.id = id ∨ member ∈ rest := by
  rcases claimed.origin with ⟨taken, rfl, perm⟩ | ⟨rfl, _⟩
  · exact (List.mem_cons.mp (perm.mem_iff.mp inside)).imp_left (congrArg Member.id)
  · exact Or.inr inside

/-- The owner is out of reach of what was claimed. -/
theorem owner_untouched : ¬ Reaches before.record? id owner := by
  intro path
  rcases claimed.origin with ⟨taken, rfl, perm⟩ | ⟨_, unborn, _⟩
  · have inside : taken ∈ pool := perm.mem_iff.mpr List.mem_cons_self
    exact start.forest.not_reaches_owner (start.linked taken inside) path
  · have given := start.given
    rw [start.forest.reaches_of_unborn unborn path] at given
    omega

/-- The owner keeps the members that are left. -/
theorem linked {member : ObjectId} (link : Linked before.record? owner member)
    : Linked after.record? owner member := by
  obtain ⟨key, record, found, held⟩ := link
  have same := claimed.confined.frame start.given (claimed.owner_untouched start)
  exact ⟨key, record, same.trans found, held⟩

/-- The trees of the members that are left have nothing in common with what was claimed. -/
theorem apart {member : Member} (inside : member ∈ rest) {x : ObjectId}
    (left : Reaches before.record? id x) (right : Reaches before.record? member.id x)
    : False := by
  have link := start.linked member (claimed.sub.subset inside)
  rcases claimed.origin with ⟨taken, rfl, perm⟩ | ⟨_, unborn, _⟩
  · have taken := start.linked taken (perm.mem_iff.mpr List.mem_cons_self)
    exact start.forest.members_apart taken link (claimed.other start inside).symm left right
  · rw [start.forest.reaches_of_unborn unborn left] at right
    rcases start.forest.live_of_reaches right with same | ⟨record, found⟩
    · exact claimed.other start inside same.symm
    · have := start.forest.bounded found
      omega

/-- They have nothing in common with what was claimed afterwards, either. -/
theorem apart_after {member : Member} (inside : member ∈ rest) {x : ObjectId}
    (left : Reaches after.record? id x) (right : Reaches after.record? member.id x)
    : False := by
  have link := claimed.linked start (start.linked member (claimed.sub.subset inside))
  rcases claimed.origin with ⟨taken, rfl, perm⟩ | ⟨_, unborn, unheld⟩
  · have taken := start.linked taken (perm.mem_iff.mpr List.mem_cons_self)
    exact claimed.forest.members_apart (claimed.linked start taken) link
      (claimed.other start inside).symm left right
  · refine claimed.forest.root_apart unheld link ?_ left right
    have := start.given
    omega

/-- The members that are left form a pool again. -/
theorem remaining : Pool types model target owner after rest := by
  have frame (member : Member) (inside : member ∈ rest)
      : ∀ x, Reaches before.record? member.id x → after.record? x = before.record? x := by
    have given := start.forest.rank_lt_of_linked
      (start.linked member (claimed.sub.subset inside))
    exact claimed.confined.frame_reaches start.forest given
      (fun x path touched => claimed.apart start inside touched path)
  refine { forest := claimed.forest
           given := Nat.lt_of_lt_of_le start.given claimed.confined.nextId_le
           distinct := start.distinct.sublist (claimed.sub.map _)
           linked := ?_
           faithful := ?_
           tidy := ?_ }
  · exact fun member inside => claimed.linked start (start.linked member (claimed.sub.subset inside))
  · exact fun member inside =>
      (start.faithful member (claimed.sub.subset inside)).congr (frame member inside)
  · exact fun member inside =>
      (start.tidy member (claimed.sub.subset inside)).confined start.forest claimed.confined

end Claimed

-----------------------------------------------------------------------------------------
-- New records
-----------------------------------------------------------------------------------------

/-- The context after a new record was inserted and an object was written to it. -/
structure Added (types model : Model) (entity : String) (object : Object) (before : Context)
    (id : ObjectId) (after : Context)
    : Prop where
  forest : Forest types after
  confined : Confined types (fun _ => False) before after
  unborn : before.nextId.toNat ≤ id.rank
  unheld : Unheld after.record? id
  result
    : ∃ read,
        Object.ReadsBack model entity object read
        ∧ Object.Stored model after.record? entity read id

/-- A new record is writable. -/
theorem Context.Inserted.writable {entity : String} (forest : Forest types before)
    (inserted : before.Inserted entity id middle)
    : Writable types entity id middle := by
  refine ⟨forest.insert inserted, ?_, ?_, ?_⟩
  · rw [inserted.rank_eq, inserted.nextId_eq]
    exact Nat.lt_succ_self _
  · intro record found
    rw [inserted.found, Option.some.injEq] at found
    exact found ▸ (Context.fresh_spec before id entity).2.1
  · intro x path
    have later := (forest.insert inserted).rank_lt_of_below path
    rw [inserted.reaches path.to_reflTransGen] at later
    exact absurd later (Nat.lt_irrefl _)

/-- Writing to a new record touches nothing that was there before.
Witness: a new record reaches only itself, and once it is written it is complete.
-/
theorem Added.of_written (lawful : model.Lawful types) {entity : String}
    (known : model.Knows entity) {object : Object} (forest : Forest types before)
    (inserted : before.Inserted entity id middle)
    (written : Written types model entity object id middle after)
    : Added types model entity object before id after := by
  have confined := written.confined
  have older {x : ObjectId} (old : x.rank < before.nextId.toNat)
      : x.rank < middle.nextId.toNat := by
    rw [inserted.nextId_eq]
    omega
  obtain ⟨read, back, stored⟩ := written.result inserted.found
  refine { forest := written.forest
           confined := ?_
           unborn := Nat.le_of_eq inserted.rank_eq.symm
           unheld := ?_
           result := ⟨read, back, stored⟩ }
  · refine { committed := confined.committed.trans inserted.committed
             schema := confined.schema.trans inserted.schema
             nextId_le := ?_
             frame := ?_
             survivor := ?_
             inherits := ?_
             incomplete := ?_ }
    · have := confined.nextId_le
      rw [inserted.nextId_eq] at this
      omega
    · intro x old _
      rw [confined.frame (older old), inserted.older old]
      intro path
      rw [inserted.reaches path, inserted.rank_eq] at old
      exact Nat.lt_irrefl _ old
    · intro x record' old found
      obtain ⟨record, found, same⟩ := confined.survivor (older old) found
      exact ⟨record, (inserted.older old).symm.trans found, same⟩
    · intro holder key member old held
      exact inserted.holds (confined.inherits (older old) held)
    · intro x lacking
      obtain ⟨record, found, incomplete⟩ := confined.incomplete lacking
      rw [inserted.records] at found
      split at found
      · next same => exact absurd (same ▸ lacking) (stored.complete lawful known)
      · exact ⟨record, found, incomplete⟩
  · refine confined.unheld ?_ (inserted.unheld forest)
    rw [inserted.nextId_eq, inserted.rank_eq]
    exact Nat.lt_succ_self _

/-- Inserting gives out the next identifier or gives up. -/
theorem Job.insert_ensures (context : Context) (entity : String)
    : (Job.insert entity).Ensures context (fun id after => context.Inserted entity id after) := by
  rcases context.insert_cases entity with ⟨message, stops⟩ | ⟨id, after, answers, inserted⟩
  · unfold Ensures insert
    rw [stops]
    trivial
  · exact .of_ok answers inserted

-----------------------------------------------------------------------------------------
-- Claims
-----------------------------------------------------------------------------------------

section Claims

variable (lawful : model.Lawful types) (known : model.Knows target)
  (plain : (model.entity target).Plain) {pool rest : List Member} {object : Object}
  (start : Pool types model target owner before pool)
include lawful known start

include plain in
/-- An equal member is claimed as it is. -/
theorem Claimed.of_equal {member : Member} (equal : member.equals object = true)
    (perm : pool.Perm (member :: rest)) (sub : rest.Sublist pool)
    : Claimed types model target pool object before member.id rest before := by
  have faithful := start.faithful member (perm.mem_iff.mpr List.mem_cons_self)
  exact {
    forest := start.forest
    confined := .refl _ _
    origin := Or.inl ⟨member, rfl, perm⟩
    sub
    result := ⟨member.object, faithful.readsBack lawful known plain equal, faithful.stored⟩ }

omit lawful known in
/-- Members can be written to. -/
theorem Pool.writable {member : Member} (inside : member ∈ pool)
    : Writable types target member.id before := by
  refine ⟨start.forest, start.forest.rank_lt_of_linked (start.linked member inside), ?_,
    start.tidy member inside⟩
  intro record found
  obtain ⟨record', found', typed⟩ := (start.faithful member inside).stored.live
  rw [found] at found'
  exact Option.some.inj found' ▸ typed

omit lawful known in
/-- A member that is written over is claimed. -/
theorem Claimed.of_written {member : Member}
    (written : Written types model target object member.id before after)
    (perm : pool.Perm (member :: rest)) (sub : rest.Sublist pool)
    : Claimed types model target pool object before member.id rest after := by
  have inside : member ∈ pool := perm.mem_iff.mpr List.mem_cons_self
  obtain ⟨record, found, _⟩ := (start.faithful member inside).stored.live
  exact {
    forest := written.forest
    confined := written.confined
    origin := Or.inl ⟨member, rfl, perm⟩
    sub
    result := written.result found }

omit lawful known start in
/-- What is added claims no member. -/
theorem Claimed.of_added (added : Added types model target object before id after)
    : Claimed types model target pool object before id pool after :=
  { forest := added.forest
    confined := added.confined.mono (fun _ _ nothing => nothing.elim)
    origin := Or.inr ⟨rfl, added.unborn, added.unheld⟩
    sub := .refl _
    result := added.result }

end Claims

/-- The record of an object: a member of the pool that is claimed, or a new one. -/
def Object.claim (model : Model) (target : String) (object : Object) (pool : List Member)
    : Job (ObjectId × List Member) :=
  match Member.take? (Member.equals object) pool with
  | some (member, rest) => pure (member.id, rest)
  | none => do
      let (id, rest) ←
        match Member.take? (Member.identifies (model.entity target) object) pool with
        | some (member, rest) => pure (member.id, rest)
        | none => do
            let id ← Job.insert (model.entity target).name
            pure (id, pool)
      write model target object id
      pure (id, rest)

/-- Settling objects is claiming a record for each of them in turn. -/
theorem Object.settle_cons (model : Model) (target : String) (object : Object)
    (objects : List Object) (pool : List Member)
    : settle model target (object :: objects) pool
      = (do
        let (id, rest) ← claim model target object pool
        let (left, ids) ← settle model target objects rest
        pure (left, id :: ids)) := by
  rw [settle]
  unfold claim
  cases Member.take? (Member.equals object) pool with
  | some taken => rfl
  | none =>
      cases Member.take? (Member.identifies (model.entity target) object) pool with
      | some taken => simp only [pure_bind, bind_assoc]
      | none => simp only [pure_bind, bind_assoc]

/-- An object that can be written claims a record, or the job gives up. -/
theorem claim_ensures (lawful : model.Lawful types) (known : model.Knows target)
    (plain : (model.entity target).Plain) {object : Object} (writes : Writes types model object)
    (fits : object.fits model (model.entity target) = true) {pool : List Member}
    (start : Pool types model target owner context pool)
    : (Object.claim model target object pool).Ensures context
        (fun answer after =>
          Claimed types model target pool object context answer.1 answer.2 after) := by
  unfold Object.claim
  split
  · next member rest taken =>
      obtain ⟨equal, perm, sub⟩ := Member.take?_eq_some taken
      exact .pure (.of_equal lawful known plain start equal perm sub)
  · split
    · next member rest taken =>
        obtain ⟨_, perm, sub⟩ := Member.take?_eq_some taken
        have inside : member ∈ pool := perm.mem_iff.mpr List.mem_cons_self
        simp only [pure_bind]
        refine (writes target member.id context known fits (start.writable inside)).bind ?_
        exact fun _ after written => .pure (.of_written start written perm sub)
    · rw [model.entity_name]
      simp only [pure_bind]
      refine (Job.insert_ensures context target).bind (fun id middle inserted => ?_)
      refine (writes target id middle known fits (inserted.writable start.forest)).bind ?_
      exact fun _ after written =>
        .pure (.of_added (.of_written lawful known start.forest inserted written))

-----------------------------------------------------------------------------------------
-- Settling
-----------------------------------------------------------------------------------------

/-- The context after objects were settled: each has an identifier of its own, that of a member which is
not left over or a new one that nothing holds yet. Every member that is not left over is settled.
-/
structure Settled (types model : Model) (target : String) (pool : List Member)
    (objects : List Object) (before : Context) (left : List Member) (ids : List ObjectId)
    (after : Context)
    : Prop where
  forest : Forest types after
  confined
    : Confined types
        (fun x =>
          ∃ member ∈ pool,
            member.id ∉ left.map (·.id) ∧ Reaches before.record? member.id x)
        before after
  sub : left.Sublist pool
  distinct : ids.Nodup
  origin
    : ∀ id ∈ ids,
        (∃ member ∈ pool, member.id = id ∧ id ∉ left.map (·.id))
        ∨ (before.nextId.toNat ≤ id.rank ∧ Unheld after.record? id)
  covers : ∀ member ∈ pool, member ∈ left ∨ member.id ∈ ids
  result
    : ∃ reads,
        Object.AllReadBack model target objects reads
        ∧ Object.AllStored model after.record? target reads ids

/-- Nothing to settle leaves the whole pool. -/
theorem Settled.nil {pool : List Member} (start : Pool types model target owner before pool)
    : Settled types model target pool [] before pool [] before :=
  { forest := start.forest
    confined := .refl _ _
    sub := .refl _
    distinct := .nil
    origin := fun _ inside => absurd inside List.not_mem_nil
    covers := fun _ inside => Or.inl inside
    result := ⟨[], by simp only [Object.AllReadBack], by simp only [Object.AllStored]⟩ }

/-- Settling the other objects after one has its identifier settles them all. -/
theorem Settled.cons {pool rest left : List Member} {object : Object} {objects : List Object}
    {ids : List ObjectId} (start : Pool types model target owner before pool)
    (claimed : Claimed types model target pool object before id rest middle)
    (settled : Settled types model target rest objects middle left ids after)
    : Settled types model target pool (object :: objects) before left (id :: ids) after := by
  obtain ⟨read, back, stored⟩ := claimed.result
  obtain ⟨reads, backs, storeds⟩ := settled.result
  have given : id.rank < middle.nextId.toNat := by
    obtain ⟨record, found, _⟩ := stored.live
    exact claimed.forest.bounded found
  have out : id ∉ left.map (·.id) := by
    intro inside
    obtain ⟨member, inside, same⟩ := List.mem_map.mp inside
    exact claimed.other start (settled.sub.subset inside) same
  refine { forest := settled.forest
           confined := ?_
           sub := settled.sub.trans claimed.sub
           distinct := ?_
           origin := ?_
           covers := ?_
           result := ⟨read :: reads, ?_, ?_⟩ }
  · refine (claimed.confined.mono (fun x old path => ?_)).trans settled.confined ?_
    · rcases claimed.origin with ⟨member, rfl, perm⟩ | ⟨_, unborn, _⟩
      · exact ⟨member, perm.mem_iff.mpr List.mem_cons_self, out, path⟩
      · rw [start.forest.reaches_of_unborn unborn path] at old
        omega
    · intro x old touches
      obtain ⟨member, inside, free, path⟩ := touches
      exact ⟨member, claimed.sub.subset inside, free,
        claimed.confined.reaches start.forest old path⟩
  · refine List.nodup_cons.mpr ⟨fun inside => ?_, settled.distinct⟩
    rcases settled.origin id inside with ⟨member, inside, same, _⟩ | ⟨unborn, _⟩
    · exact claimed.other start inside same
    · omega
  · intro x inside
    rcases List.mem_cons.mp inside with rfl | inside
    · rcases claimed.origin with ⟨member, same, perm⟩ | ⟨_, unborn, unheld⟩
      · exact Or.inl ⟨member, perm.mem_iff.mpr List.mem_cons_self, same, out⟩
      · exact Or.inr ⟨unborn, settled.confined.unheld given unheld⟩
    · rcases settled.origin x inside with ⟨member, inside, same, free⟩ | ⟨unborn, unheld⟩
      · exact Or.inl ⟨member, claimed.sub.subset inside, same, free⟩
      · exact Or.inr ⟨Nat.le_trans claimed.confined.nextId_le unborn, unheld⟩
  · intro member inside
    rcases claimed.covers inside with rfl | inside
    · exact Or.inr List.mem_cons_self
    · exact (settled.covers member inside).imp_right (List.mem_cons_of_mem id)
  · simp only [Object.AllReadBack]
    exact ⟨back, backs⟩
  · simp only [Object.AllStored]
    refine ⟨stored.confined claimed.forest settled.confined ?_, storeds⟩
    intro x path touches
    obtain ⟨member, inside, _, path'⟩ := touches
    exact claimed.apart_after start inside path path'

/-- Objects that can be written are settled, or the job gives up.
Witness: induction on the objects; every claim leaves a pool.
-/
theorem settle_ensures (lawful : model.Lawful types) (known : model.Knows target)
    (plain : (model.entity target).Plain) (objects : List Object)
    (each : ∀ object ∈ objects, Writes types model object)
    (fits : Object.allFit model (model.entity target) objects = true) {pool : List Member}
    (start : Pool types model target owner context pool)
    : (Object.settle model target objects pool).Ensures context
        (fun answer after =>
          Settled types model target pool objects context answer.1 answer.2 after) := by
  induction objects generalizing context pool with
  | nil =>
      rw [Object.settle]
      exact .pure (.nil start)
  | cons object objects ih =>
      simp only [Object.allFit, Bool.and_eq_true] at fits
      rw [Object.settle_cons]
      refine (claim_ensures lawful known plain (each object List.mem_cons_self) fits.1 start).bind ?_
      intro result middle claimed
      obtain ⟨id, rest⟩ := result
      refine (ih (fun other inside => each other (.tail _ inside)) fits.2
        (claimed.remaining start)).bind ?_
      intro result after settled
      obtain ⟨left, ids⟩ := result
      exact Job.Ensures.pure (Settled.cons start claimed settled)

end EntityStore
