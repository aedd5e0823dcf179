import EntityStore.Proofs.Context.Job
import EntityStore.Proofs.Context.Overlay
import EntityStore.Proofs.Object.Lawful
import EntityStore.Proofs.Write.Operations
import Mathlib.Logic.Relation

/-! What every write keeps.
Whatever each operation of a write keeps is kept by writing any object. New records are the only ones
whose type matters: they are of types that the type of the object refers to.
-/

namespace EntityStore

/-- Whatever holds before the job holds after it, if the job answers. -/
def Job.Keeps {α : Type} (job : Job α) (P : Context → Prop) : Prop :=
  ∀ context answer after, P context → job context = .ok (answer, after) → P after

namespace Job

variable {α β : Type} {P : Context → Prop}

theorem Keeps.pure (answer : α) : (Pure.pure answer : Job α).Keeps P := by
  intro context result after holds answers
  cases answers
  exact holds

theorem Keeps.bind {job : Job α} {next : α → Job β} (first : job.Keeps P)
    (later : ∀ answer, (next answer).Keeps P)
    : (job >>= next).Keeps P := by
  intro context result after holds answers
  obtain ⟨answer, middle, ends, rest⟩ := exists_of_bind answers
  exact later answer _ _ _ (first _ _ _ holds ends) rest

theorem Keeps.get : (MonadState.get : Job Context).Keeps P := by
  intro context result after holds answers
  cases answers
  exact holds

theorem Keeps.lift (attempt : Attempt α) : Job.Keeps (attempt : Job α) P := by
  intro context result after holds answers
  cases attempt with
  | error abort => cases answers
  | ok value =>
      cases answers
      exact holds

theorem Keeps.write {f : Context → Context} (keeps : ∀ {context}, P context → P (f context))
    : (Job.write f).Keeps P := by
  intro context result after holds answers
  cases answers
  exact keeps holds

end Job

-----------------------------------------------------------------------------------------
-- Writes
-----------------------------------------------------------------------------------------

/-- Every operation of a write keeps the property, where records are inserted for some entities only. -/
structure Stable (inserts : String → Prop) (P : Context → Prop) : Prop where
  setValue : ∀ {context} id key value, P context → P (context.setValue id key value)
  setRelated : ∀ {context} id key ids, P context → P (context.setRelated id key ids)
  takeOut : ∀ {context} id, P context → P (context.takeOut id)
  insert
    : ∀ {context entity id after},
        inserts entity → P context → context.Inserted entity id after → P after

section Write

variable {model : Model} {inserts : String → Prop} {P : Context → Prop}
  (stable : Stable inserts P)
include stable

private theorem delete_keeps {context : Context} (id : ObjectId) (holds : P context)
    : P (context.delete id) := by
  have within (depth : Nat) : ∀ context id, P context → P (Context.deleteWithin depth id context) := by
    induction depth with
    | zero => exact fun _ _ holds => holds
    | succ depth ih =>
        intro context id holds
        unfold Context.deleteWithin
        split
        · exact holds
        · next record found =>
            exact List.foldlRecOn _ _ (stable.takeOut id holds)
              (fun context holds member _ => ih context member holds)
  exact within _ context id holds

private theorem insert_keeps {entity : String} (inserted : inserts entity)
    : (Job.insert entity).Keeps P := by
  intro context id after holds answers
  rcases context.insert_cases entity with ⟨message, stops⟩ | ⟨id', after', answers', fresh⟩
  · rw [Job.insert, stops] at answers
    contradiction
  · rw [Job.insert, answers'] at answers
    cases answers
    exact stable.insert inserted holds fresh

/-- What the operations of a write keep is kept by whatever is made of them. -/
private theorem keeps_closed : Job.Closed model inserts (fun job => job.Keeps P) where
  pure answer := .pure answer
  lift attempt := .lift attempt
  bind first later := first.bind later
  setValue id key value := .write (stable.setValue id key value)
  setRelated id key ids := .write (stable.setRelated id key ids)
  deleteAll _ := .write (fun holds =>
    List.foldlRecOn _ _ holds (fun _ holds member _ => delete_keeps stable member.id holds))
  insert inserted := insert_keeps stable inserted
  members _ _ _ _ later := .bind .get (fun _ => (Job.Keeps.lift _).bind later)

/-- Writing an object keeps whatever its operations keep, where records are inserted for the types that
its type refers to.
-/
theorem write_keeps
    (onward : ∀ {source target}, inserts source → model.Refers source target → inserts target)
    (object : Object) {entity : String} (id : ObjectId)
    (refers : ∀ target, model.Refers entity target → inserts target)
    : (Object.write model entity object id).Keeps P :=
  write_closed (keeps_closed stable) onward object id refers

end Write

-----------------------------------------------------------------------------------------
-- New records
-----------------------------------------------------------------------------------------

/-- The records from an identifier on are of some entities only. -/
structure Bred (since : Nat) (inserts : String → Prop) (context : Context) : Prop where
  keyed : Keyed context.record?
  since_le : since ≤ context.nextId.toNat
  bred
    : ∀ {id record},
        since ≤ id.rank → context.record? id = some record → inserts record.entity

/-- No operation makes a new record of another entity. -/
theorem Bred.stable (since : Nat) (inserts : String → Prop) : Stable inserts (Bred since inserts) := by
  refine { setValue := ?_, setRelated := ?_, takeOut := ?_, insert := ?_ }
  · intro context id key value held
    have next := (Context.sameFrame_setValue context id key value).nextId
    refine ⟨fun {x record} found => ?_, by rw [next]; exact held.since_le,
      fun {x record} later found => ?_⟩ <;>
      obtain ⟨earlier, present, ids, entity, _⟩ :=
        (sameSkeletons_setValue context id key value).found found
    · exact ids.trans (held.keyed present)
    · exact entity ▸ held.bred later present
  · intro context id key ids held
    have next := (Context.sameFrame_setRelated context id key ids).nextId
    refine ⟨fun {x record} found => ?_, by rw [next]; exact held.since_le,
      fun {x record} later found => ?_⟩ <;>
      obtain ⟨before, present, ids, entity, _⟩ := Context.found_of_setRelated found
    · exact ids.trans (held.keyed present)
    · exact entity ▸ held.bred later present
  · intro context id held
    have next := (Context.sameFrame_takeOut context id).nextId
    refine ⟨fun {x record} found => ?_, by rw [next]; exact held.since_le,
      fun {x record} later found => ?_⟩ <;>
      obtain ⟨_, before, present, rfl⟩ := Context.found_of_takeOut held.keyed found
    · exact (Record.without_id _ _).trans (held.keyed present)
    · exact (Record.without_entity id before) ▸ held.bred later present
  · intro context entity id after inserted held fresh
    have spec := Context.fresh_spec context id entity
    refine ⟨fun {x record} found => ?_, ?_, fun {x record} later found => ?_⟩
    · rcases fresh.found_cases found with ⟨rfl, rfl⟩ | present
      · exact spec.1
      · exact held.keyed present
    · rw [fresh.nextId_eq]
      exact Nat.le_succ_of_le held.since_le
    · rcases fresh.found_cases found with ⟨rfl, rfl⟩ | present
      · exact spec.2.1.symm ▸ inserted
      · exact held.bred later present

/-- Apart from one identifier, the new records are of types that an entity type reaches. -/
def Breeds (model : Model) (entity : String) (id : ObjectId) (before after : Context) : Prop :=
  ∀ {x record},
    x ≠ id
    → before.nextId.toNat ≤ x.rank
    → after.record? x = some record
    → Relation.TransGen model.Refers entity record.entity

/-- The records that writing an object makes are of types that its type reaches.
Witness: none of the operations of a write makes another one.
-/
theorem write_breeds {model types : Model} {context after : Context} {object : Object}
    {entity : String} {id : ObjectId} (forest : Forest types context)
    (answers : Object.write model entity object id context = .ok ((), after))
    : Breeds model entity id context after := by
  intro x record _ later found
  have start : Bred context.nextId.toNat (Relation.TransGen model.Refers entity) context := by
    refine ⟨forest.keyed, Nat.le_refl _, fun {y record} later present => ?_⟩
    have := forest.bounded present
    omega
  have keeps : (Object.write model entity object id).Keeps
      (Bred context.nextId.toNat (Relation.TransGen model.Refers entity)) :=
    write_keeps (Bred.stable _ _) (fun inserted refers => inserted.tail refers) object id
      (fun target refers => .single refers)
  exact (keeps context () after start answers).bred later found

/-- Nothing else is made where the identifier itself is new. -/
theorem Breeds.of_inserted {model : Model} {before middle after : Context} {entity : String}
    {id : ObjectId} (inserted : before.Inserted entity id middle)
    (breeds : Breeds model entity id middle after)
    : Breeds model entity id before after := by
  intro x record other later found
  refine breeds other ?_ found
  have apart : x.rank ≠ id.rank := fun same => other (ObjectId.rank_inj same)
  rw [inserted.rank_eq] at apart
  rw [inserted.nextId_eq]
  omega

end EntityStore
