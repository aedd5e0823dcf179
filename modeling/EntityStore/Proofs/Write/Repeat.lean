import EntityStore.Proofs.Object.Identity
import EntityStore.Proofs.Write.Settle
import EntityStore.Proofs.Write.Unchanged

/-! Writing again what is already there.
An object that is written over the record that holds what it comes back as changes nothing, provided
that the members of every list are told apart: each member is then claimed by the object that it came
from, whatever the order, and is written over with what it already holds.
-/

namespace EntityStore

variable {types model : Model} {context : Context} {entity target : String} {id : ObjectId}

-----------------------------------------------------------------------------------------
-- Objects with members that are told apart
-----------------------------------------------------------------------------------------

namespace Object

mutual
/-- At every depth, the members of one list have different identifiers where they have any. -/
def membersDistinct (model : Model) (entity : EntityType) : Object → Bool
  | mk contents => contentsDistinct model entity.fields contents

/-- The members in the contents of the fields are told apart. -/
def contentsDistinct (model : Model) : List Field → List Content → Bool
  | field :: fields, content :: contents =>
      contentDistinct model field content && contentsDistinct model fields contents
  | _, _ => true

/-- The members in the content of a field are told apart, and so are theirs. -/
def contentDistinct (model : Model) (field : Field) : Content → Bool
  | .members _ objects => match field.kind with
      | .reference entity =>
          decide (objects.filterMap (·.identity? (model.entity entity))).Nodup
            && allDistinct model (model.entity entity) objects
      | _ => true
  | _ => true

/-- The members of each of the objects are told apart. -/
def allDistinct (model : Model) (entity : EntityType) : List Object → Bool
  | [] => true
  | object :: objects =>
      membersDistinct model entity object && allDistinct model entity objects
end

end Object

/-- Where the object was written it can be written again, and nothing changes. -/
def Repeats (types model : Model) (object : Object) : Prop :=
  ∀ entity id context read,
    model.Knows entity
    → object.fits model (model.entity entity) = true
    → object.membersDistinct model (model.entity entity) = true
    → Forest types context
    → Object.ReadsBack model entity object read
    → Object.Stored model context.record? entity read id
    → Object.write model entity object id context = .ok ((), context)

-----------------------------------------------------------------------------------------
-- Claims
-----------------------------------------------------------------------------------------

/-- The members of the pool hold what the objects come back as, in some order, and the objects are told
apart.
-/
structure Recalls (model : Model) (source : RecordSource) (target : String)
    (objects : List Object) (pool : List Member)
    : Prop where
  faithful : ∀ member ∈ pool, member.Faithful model source target
  fits : Object.allFit model (model.entity target) objects = true
  distinct : (objects.filterMap (·.identity? (model.entity target))).Nodup
  arranged
    : ∃ reads, Object.AllReadBack model target objects reads ∧ reads.Perm (pool.map Member.object)

section Claims

variable {source : RecordSource} {object : Object} {objects : List Object} {pool rest : List Member}
  (lawful : model.Lawful types) (known : model.Knows target)
include lawful known

/-- A member that is like the object is the one that the object has come back as, and the others are
left for the other objects.
Witness: two members of one identifier would come from two objects of one identifier.
-/
theorem Recalls.take {member : Member} (recalls : Recalls model source target (object :: objects) pool)
    (perm : pool.Perm (member :: rest))
    (named
      : ∀ {text},
          object.identity? (model.entity target) = some text
          → member.object.identity? (model.entity target) = some text)
    (bare
      : (model.entity target).isIdentifiable = false
        → ∀ read, Object.ReadsBack model target object read → member.object = read)
    : Object.ReadsBack model target object member.object ∧ Recalls model source target objects rest := by
  obtain ⟨reads, backs, arranged⟩ := recalls.arranged
  cases reads with
  | nil => simp [Object.AllReadBack] at backs
  | cons read reads =>
      have identities := backs.identities lawful known recalls.fits
      have fits := recalls.fits
      simp only [Object.allFit, Bool.and_eq_true] at fits
      simp only [Object.AllReadBack] at backs
      have inside : member.object ∈ read :: reads :=
        (arranged.trans (perm.map _)).mem_iff.mpr List.mem_cons_self
      have same : member.object = read := by
        cases identifiable : (model.entity target).isIdentifiable with
        | false => exact bare identifiable read backs.1
        | true =>
            obtain ⟨text, identity⟩ := Object.exists_identity lawful known identifiable fits.1
            have distinct := recalls.distinct
            rw [← identities, List.filterMap_cons, backs.1.identity lawful known identity,
              List.nodup_cons] at distinct
            rcases List.mem_cons.mp inside with same | later
            · exact same
            · exact absurd (List.mem_filterMap.mpr ⟨_, later, named identity⟩) distinct.1
      refine ⟨same ▸ backs.1, ?_⟩
      refine { faithful := ?_, fits := fits.2, distinct := ?_, arranged := ⟨reads, backs.2, ?_⟩ }
      · exact fun other left =>
          recalls.faithful other (perm.mem_iff.mpr (List.mem_cons_of_mem _ left))
      · have distinct := recalls.distinct
        rw [List.filterMap_cons] at distinct
        split at distinct
        · exact distinct
        · exact (List.nodup_cons.mp distinct).2
      · have arranged := arranged.trans (perm.map _)
        rw [List.map_cons, same] at arranged
        exact arranged.cons_inv

omit lawful known in
/-- Some member holds what the first object comes back as. -/
theorem Recalls.exists_own (recalls : Recalls model source target (object :: objects) pool)
    : ∃ own ∈ pool, Object.ReadsBack model target object own.object := by
  obtain ⟨reads, backs, arranged⟩ := recalls.arranged
  cases reads with
  | nil => simp [Object.AllReadBack] at backs
  | cons read reads =>
      simp only [Object.AllReadBack] at backs
      obtain ⟨own, inside, same⟩ := List.mem_map.mp (arranged.mem_iff.mp List.mem_cons_self)
      exact ⟨own, inside, same ▸ backs.1⟩

variable (plain : (model.entity target).Plain)
include plain

omit lawful known in
/-- An object that no member equals has an identifier: without one, its own member equals it. -/
theorem Recalls.identifiable_of_unequal
    (recalls : Recalls model source target (object :: objects) pool)
    (equal : Member.take? (Member.equals object) pool = none)
    : (model.entity target).isIdentifiable = true := by
  obtain ⟨own, inside, back⟩ := recalls.exists_own
  have faithful := recalls.faithful own inside
  rw [← Bool.not_eq_false]
  intro anonymous
  have equals := faithful.stored.equals_self plain anonymous
  have fails := Member.take?_eq_none equal own inside
  simp only [Member.equals, faithful.mapped, Option.any_some] at fails
  rw [back.eq_of_bare plain anonymous] at equals fails
  rw [equals] at fails
  contradiction

/-- An object claims the member that it has come back as, and writes nothing that is not there. -/
theorem claim_again (forest : Forest types context) (repeats : Repeats types model object)
    (apart : object.membersDistinct model (model.entity target) = true)
    (recalls : Recalls model context.record? target (object :: objects) pool)
    : ∃ member rest,
        Object.claim model target object pool context = .ok ((member.id, rest), context)
        ∧ pool.Perm (member :: rest)
        ∧ Recalls model context.record? target objects rest := by
  cases equal : Member.take? (Member.equals object) pool with
  | some taken =>
      obtain ⟨member, rest⟩ := taken
      obtain ⟨equals, perm, _⟩ := Member.take?_eq_some equal
      have faithful := recalls.faithful member (perm.mem_iff.mpr List.mem_cons_self)
      have back := faithful.readsBack lawful known plain equals
      refine ⟨member, rest, by rw [Object.claim, equal]; rfl, perm, ?_⟩
      refine (recalls.take lawful known perm (fun identity => back.identity lawful known identity)
        (fun anonymous read back' => ?_)).2
      rw [back.eq_of_bare plain anonymous, back'.eq_of_bare plain anonymous]
  | none =>
      have identifiable := recalls.identifiable_of_unequal plain equal
      have fit := recalls.fits
      simp only [Object.allFit, Bool.and_eq_true] at fit
      obtain ⟨text, identity⟩ := Object.exists_identity lawful known identifiable fit.1
      have identifies (member : Member) (inside : member ∈ pool)
          : Member.identifies (model.entity target) object member = true
            ↔ member.object.identity? (model.entity target) = some text := by
        simp [Member.identifies, identity, (recalls.faithful member inside).mapped]
      cases named : Member.take? (Member.identifies (model.entity target) object) pool with
      | some taken =>
          obtain ⟨member, rest⟩ := taken
          obtain ⟨passes, perm, _⟩ := Member.take?_eq_some named
          have inside := perm.mem_iff.mpr List.mem_cons_self
          have carried := (identifies member inside).mp passes
          obtain ⟨back, rest'⟩ := recalls.take lawful known perm
            (fun {other} identity' => by rw [carried, ← identity, identity'])
            (fun anonymous => by simp [identifiable] at anonymous)
          have written := repeats target member.id context member.object known fit.1 apart forest
            back (recalls.faithful member inside).stored
          refine ⟨member, rest, ?_, perm, rest'⟩
          rw [Object.claim, equal, named]
          simp only [pure_bind]
          rw [Job.bind_of_ok written]
          rfl
      | none =>
          obtain ⟨own, inside, back⟩ := recalls.exists_own
          have fails := Member.take?_eq_none named own inside
          rw [(identifies own inside).mpr (back.identity lawful known identity)] at fails
          contradiction

/-- Objects claim the members that they have come back as, one after another, and none is left over. -/
theorem settle_again (forest : Forest types context)
    (each : ∀ object ∈ objects, Repeats types model object)
    (apart : Object.allDistinct model (model.entity target) objects = true)
    (recalls : Recalls model context.record? target objects pool)
    : ∃ ids,
        Object.settle model target objects pool context = .ok (([], ids), context)
        ∧ (pool.map (·.id)).Perm ids := by
  induction objects generalizing pool with
  | nil =>
      obtain ⟨reads, backs, arranged⟩ := recalls.arranged
      cases reads with
      | cons read reads => simp [Object.AllReadBack] at backs
      | nil =>
          obtain rfl := List.map_eq_nil_iff.mp arranged.symm.eq_nil
          rw [Object.settle]
          exact ⟨[], rfl, .refl _⟩
  | cons object objects ih =>
      simp only [Object.allDistinct, Bool.and_eq_true] at apart
      obtain ⟨member, rest, claims, perm, recalls'⟩ :=
        claim_again lawful known plain forest (each object List.mem_cons_self) apart.1 recalls
      obtain ⟨ids, settles, same⟩ :=
        ih (fun other inside => each other (.tail _ inside)) apart.2 recalls'
      refine ⟨member.id :: ids, ?_, (perm.map _).trans (same.cons member.id)⟩
      rw [Object.settle_cons, Job.bind_of_ok claims]
      exact Job.bind_of_ok settles _

end Claims

-----------------------------------------------------------------------------------------
-- Fields
-----------------------------------------------------------------------------------------

section Fields

variable {field : Field} {record : Record} (lawful : model.Lawful types)
  (known : model.Knows entity) (forest : Forest types context)
  (found : context.record? id = some record)
include lawful known forest found

/-- A relation that holds what the objects come back as is left alone. -/
theorem reconcile_again (inside : field ∈ (model.entity entity).fields)
    (kind : field.kind = .reference target) {objects reads members : List Object}
    (each : ∀ object ∈ objects, Repeats types model object)
    (fits : Object.allFit model (model.entity target) objects = true)
    (distinct : (objects.filterMap (·.identity? (model.entity target))).Nodup)
    (apart : Object.allDistinct model (model.entity target) objects = true)
    (backs : Object.AllReadBack model target objects reads) (perm : reads.Perm members)
    (stored : Object.AllStored model context.record? target members (record.related field.key))
    (unordered deleteOld : Bool)
    : Object.reconcile Object.equals model target id field.key objects unordered deleteOld
          (Object.settle model target objects) context
        = .ok ((), context) := by
  obtain ⟨_, known', plain⟩ := lawful.reference known inside kind
  obtain ⟨pool, answers, listed, faithful⟩ := Member.ofIds_of_stored forest _
    (fun member inside =>
      have ⟨object, _, held⟩ := stored.each member inside
      ⟨object, held⟩)
  have mapped : pool.map Member.object = members := by
    have held := Member.allStored_of_faithful pool faithful
    rw [listed] at held
    exact held.unique forest stored
  have recalls : Recalls model context.record? target objects pool :=
    ⟨faithful, fits, distinct, reads, backs, mapped ▸ perm⟩
  obtain ⟨ids, settles, same⟩ := settle_again lawful known' plain forest each apart recalls
  rw [listed] at same
  rw [← Context.related_eq found] at answers
  unfold Object.reconcile
  refine (Job.bind_of_ok rfl _).trans ?_
  rw [answers]
  refine (Job.bind_of_ok rfl _).trans ?_
  split
  · rfl
  · rw [Job.bind_of_ok settles]
    have unwritten : (Job.write (·.setRelated id field.key ids)) context = .ok ((), context) := by
      rw [Job.write, Context.setRelated_of_perm found same]
      rfl
    simp only
    rw [Job.bind_of_ok unwritten]
    split <;> rfl

/-- A content that was written can be written again, and nothing changes. -/
theorem writeContent_again (inside : field ∈ (model.entity entity).fields) {content read : Content}
    (each : ∀ object ∈ content.objects, Repeats types model object)
    (fits : Object.contentFits model field content = true)
    (apart : Object.contentDistinct model field content = true)
    (back : Object.FieldReadsBack model field content read)
    (stored : Object.FieldStored model context.record? record field read)
    : Object.writeContent model field content id context = .ok ((), context) := by
  cases content with
  | scalar content =>
      refine Object.writeContent_slot model found (fun _ _ same => by cases same)
        (fun kept => ?_)
      rw [Object.FieldReadsBack, if_neg (by simp [kept])] at back
      rw [Object.FieldStored, if_neg (by simp [kept])] at stored
      simp only [Object.ContentReadsBack] at back
      exact back ▸ stored
  | textual content =>
      refine Object.writeContent_slot model found (fun _ _ same => by cases same)
        (fun kept => ?_)
      rw [Object.FieldReadsBack, if_neg (by simp [kept])] at back
      rw [Object.FieldStored, if_neg (by simp [kept])] at stored
      simp only [Object.ContentReadsBack] at back
      exact back ▸ stored
  | members present objects =>
      simp only [Object.contentFits] at fits
      split at fits
      · next target kind =>
          have kept := (lawful.reference known inside kind).1
          simp only [Bool.and_eq_true] at fits
          simp only [Object.contentDistinct, kind, Bool.and_eq_true, decide_eq_true_eq] at apart
          simp only [Object.FieldReadsBack, kept, Bool.false_eq_true, if_false,
            Object.ContentReadsBack] at back
          obtain ⟨target', reads, members, kind', backs, perm, rfl⟩ := back
          obtain rfl : target = target' := by simpa [kind] using kind'
          simp only [Object.FieldStored, kept, Bool.false_eq_true, if_false,
            Object.ContentStored] at stored
          obtain ⟨target', kind', _, _, held⟩ := stored
          obtain rfl : target = target' := by simpa [kind] using kind'
          rw [Object.writeContent_members kind kept]
          exact reconcile_again lawful known forest found inside kind each fits.2 apart.1 apart.2
            backs perm held _ _
      · contradiction

/-- Contents that were written can be written again, and nothing changes. -/
theorem writeContents_again (fields : List Field) (part : fields ⊆ (model.entity entity).fields)
    {contents reads : List Content}
    (each : ∀ content ∈ contents, ∀ object ∈ content.objects, Repeats types model object)
    (fits : Object.contentsFit model fields contents = true)
    (apart : Object.contentsDistinct model fields contents = true)
    (backs : Object.ContentsReadBack model fields contents reads)
    (stored : Object.ContentsStored model context.record? record fields reads)
    : Object.writeContents model fields contents id context = .ok ((), context) := by
  induction fields generalizing contents reads with
  | nil =>
      obtain ⟨rfl, rfl⟩ := Object.contentsReadBack_nil.mp backs
      rw [Object.writeContents]
      · rfl
      · simp
  | cons field fields ih =>
      obtain ⟨content, contents, read, reads, rfl, rfl, back, backs⟩ :=
        Object.contentsReadBack_cons.mp backs
      obtain ⟨_, _, same, first, rest⟩ := Object.contentsStored_cons.mp stored
      obtain ⟨rfl, rfl⟩ := List.cons.inj same
      obtain ⟨inside, part⟩ := List.cons_subset.mp part
      simp only [Object.contentsFit, Bool.and_eq_true] at fits
      simp only [Object.contentsDistinct, Bool.and_eq_true] at apart
      rw [Object.writeContents, Job.bind_of_ok (writeContent_again lawful known forest found inside
        (each content List.mem_cons_self) fits.1 apart.1 back first)]
      exact ih part (fun other listed => each other (List.mem_cons_of_mem _ listed)) fits.2
        apart.2 backs rest

end Fields

/-- Every object can be written again over the record that holds what it comes back as, and nothing
changes.
Witness: induction on the object; members are written again by the induction hypothesis.
-/
theorem write_again (lawful : model.Lawful types) (object : Object)
    : Repeats types model object := by
  induction object using Object.induction with
  | step contents each =>
      intro entity id context read known fits apart forest back stored
      cases read with
      | mk reads =>
          rw [Object.fits] at fits
          rw [Object.membersDistinct] at apart
          simp only [Object.ReadsBack] at back
          obtain ⟨record, found, _, held⟩ := by simpa only [Object.Stored] using stored
          rw [Object.write]
          exact writeContents_again lawful known forest found _ (List.Subset.refl _) each fits
            apart back held

end EntityStore
