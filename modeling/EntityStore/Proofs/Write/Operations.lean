import EntityStore.Proofs.Write.Settle

/-! The operations that writing is made of.
Writing an object sets attributes and relations, inserts and deletes records, and looks at nothing but the
members of relations. So a property of jobs that these have, and that sequences of jobs have, is one of
writing any object.
-/

namespace EntityStore

/-- A type has a field that refers to another one. -/
def Model.Refers (model : Model) (source target : String) : Prop :=
  ∃ field ∈ (model.entity source).fields, field.kind = .reference target

/-- Whatever writing is made of has the property, where records are inserted for some entities only. -/
structure Job.Closed (model : Model) (inserts : String → Prop) (P : ∀ {α : Type}, Job α → Prop)
    : Prop where
  pure : ∀ {α : Type} (answer : α), P (Pure.pure answer : Job α)
  lift : ∀ {α : Type} (attempt : Attempt α), P (attempt : Job α)
  bind
    : ∀ {α β : Type} {job : Job α} {next : α → Job β},
        P job → (∀ answer, P (next answer)) → P (job >>= next)
  setValue : ∀ id key value, P (Job.write (·.setValue id key value))
  setRelated : ∀ id key ids, P (Job.write (·.setRelated id key ids))
  deleteAll
    : ∀ members : List Member,
        P (Job.write (fun context =>
          members.foldl (fun context member => context.delete member.id) context))
  insert : ∀ {entity}, inserts entity → P (Job.insert entity)
  members
    : ∀ target owner key {next : List Member → Job Unit},
        (∀ members, P (next members))
        → P (do
          let context ← get
          let members ←
            (Member.ofIds model target context (context.related owner key) : Attempt _)
          next members)

section Write

variable {model : Model} {inserts : String → Prop} {P : ∀ {α : Type}, Job α → Prop}
  (closed : Job.Closed model inserts P)
  (onward : ∀ {source target}, inserts source → model.Refers source target → inserts target)
include closed onward

/-- Writing the object has the property wherever its type refers to types with insertions. -/
private def WrittenWithin (model : Model) (inserts : String → Prop)
    (P : ∀ {α : Type}, Job α → Prop) (object : Object)
    : Prop :=
  ∀ entity id,
    (∀ target, model.Refers entity target → inserts target)
    → P (Object.write model entity object id)

private theorem claim_closed {target : String} (inserted : inserts target) {object : Object}
    (within : WrittenWithin model inserts P object) (pool : List Member)
    : P (Object.claim model target object pool) := by
  have writes (id : ObjectId) : P (Object.write model target object id) :=
    within target id (fun _ refers => onward inserted refers)
  unfold Object.claim
  split
  · exact closed.pure _
  · split
    · simp only [pure_bind]
      exact closed.bind (writes _) (fun _ => closed.pure _)
    · simp only [pure_bind, model.entity_name]
      exact closed.bind (closed.insert inserted)
        (fun id => closed.bind (writes id) (fun _ => closed.pure _))

private theorem settle_closed {target : String} (inserted : inserts target)
    (objects : List Object) (each : ∀ object ∈ objects, WrittenWithin model inserts P object)
    (pool : List Member)
    : P (Object.settle model target objects pool) := by
  induction objects generalizing pool with
  | nil =>
      rw [Object.settle]
      exact closed.pure _
  | cons object objects ih =>
      rw [Object.settle_cons]
      refine closed.bind (claim_closed closed onward inserted (each object List.mem_cons_self) pool) ?_
      intro result
      obtain ⟨id, rest⟩ := result
      refine closed.bind (ih (fun other inside => each other (.tail _ inside)) rest) ?_
      intro result
      obtain ⟨left, ids⟩ := result
      exact closed.pure _

private theorem content_closed {entity : String} {field : Field}
    (inside : field ∈ (model.entity entity).fields)
    (refers : ∀ target, model.Refers entity target → inserts target) (content : Content)
    (each : ∀ object ∈ content.objects, WrittenWithin model inserts P object) (id : ObjectId)
    : P (Object.writeContent model field content id) := by
  cases content with
  | scalar content =>
      rw [Object.writeContent]
      split
      · exact closed.pure _
      · exact closed.setValue id field.key _
  | textual content =>
      rw [Object.writeContent]
      split
      · exact closed.pure _
      · exact closed.bind (closed.lift _) (fun stored => closed.setValue id field.key stored)
  | members present objects =>
      rw [Object.writeContent]
      split
      · next target kind =>
          split
          · exact closed.pure _
          · unfold Object.reconcile
            refine closed.members target id field.key (fun members => ?_)
            split
            · exact closed.pure _
            · refine closed.bind (settle_closed closed onward (refers target ⟨field, inside, kind⟩)
                objects each members) ?_
              intro result
              obtain ⟨left, ids⟩ := result
              refine closed.bind (closed.setRelated id field.key ids) (fun _ => ?_)
              split
              · exact closed.deleteAll left
              · exact closed.pure _
      · exact closed.pure _

private theorem contents_closed {entity : String} (fields : List Field)
    (part : fields ⊆ (model.entity entity).fields)
    (refers : ∀ target, model.Refers entity target → inserts target) (contents : List Content)
    (each
      : ∀ content ∈ contents, ∀ object ∈ content.objects, WrittenWithin model inserts P object)
    (id : ObjectId)
    : P (Object.writeContents model fields contents id) := by
  induction fields generalizing contents with
  | nil =>
      rw [Object.writeContents]
      · exact closed.pure _
      · simp
  | cons field fields ih =>
      cases contents with
      | nil =>
          rw [Object.writeContents]
          · exact closed.pure _
          · simp
      | cons content contents =>
          obtain ⟨inside, part⟩ := List.cons_subset.mp part
          rw [Object.writeContents]
          refine closed.bind (content_closed closed onward inside refers content
            (each content List.mem_cons_self) id) (fun _ => ?_)
          exact ih part contents (fun other listed => each other (.tail _ listed))

/-- Writing an object has every property that its operations have, where records are inserted for the types
that its type refers to.
Witness: induction on the object; a member is written like an object of its own.
-/
theorem write_closed (object : Object) {entity : String} (id : ObjectId)
    (refers : ∀ target, model.Refers entity target → inserts target)
    : P (Object.write model entity object id) := by
  have within : WrittenWithin model inserts P object := by
    induction object using Object.induction with
    | step contents each =>
        intro entity id refers
        rw [Object.write]
        exact contents_closed closed onward _ (List.Subset.refl _) refers contents each id
  exact within entity id refers

end Write

end EntityStore
