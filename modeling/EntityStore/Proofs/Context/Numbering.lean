import EntityStore.Proofs.Context.Draft
import EntityStore.Proofs.Deletion.Closure

/-! Identifiers within a job.
Whatever operations a job performs, what it sees under an identifier that was given out before the job is
the committed record of the identifier, and everything that it has inserted lies between the first
identifier that the job gave out and the next one. A rollback takes records back, but no identifiers.
-/

namespace EntityStore

/-- How the identifiers of what a job sees lie, if the job started on an arena with a certain next
identifier. -/
structure Issued (start : Arena) (first : Nat) (context : Context) : Prop where
  committed : context.committed = start
  least : first ≤ context.nextId.toNat
  keyed : Keyed context.record?
  bounded : ∀ {id record}, context.record? id = some record → id.rank < context.nextId.toNat
  /-- What stands under an identifier from before is what was committed. -/
  known
    : ∀ {id record},
        context.record? id = some record
        → id.rank < first
        → start.entity? id = some record.entity

/-- The records of an arena stand under their own identifiers, which were given out. -/
structure Arena.Numbered (arena : Arena) (next : Nat) : Prop where
  keyed : Keyed arena.get?
  bounded : ∀ {id record}, arena.get? id = some record → id.rank < next

namespace Issued

variable {start : Arena} {first : Nat} {context after : Context}

/-- A job starts with the committed records. -/
theorem ofArena {nextId : UInt64} (numbered : start.Numbered nextId.toNat) (schema : Schema)
    : Issued start nextId.toNat (.ofArena start schema nextId) where
  committed := rfl
  least := Nat.le_refl _
  keyed := numbered.keyed
  bounded := numbered.bounded
  known := fun found _ => Arena.entity?_of_get? found

/-- What leaves no other records, and none of other entity types, keeps to the identifiers. -/
theorem within (issued : Issued start first context) (frame : context.SameFrame after)
    (found
      : ∀ {id record'},
          after.record? id = some record'
          → ∃ record,
              context.record? id = some record
              ∧ record'.id = record.id
              ∧ record'.entity = record.entity)
    : Issued start first after where
  committed := frame.committed.trans issued.committed
  least := frame.nextId ▸ issued.least
  keyed := fun live => by
    obtain ⟨record, present, same, _⟩ := found live
    exact same.trans (issued.keyed present)
  bounded := fun live => by
    obtain ⟨record, present, _⟩ := found live
    exact frame.nextId ▸ issued.bounded present
  known := fun live before => by
    obtain ⟨record, present, _, same⟩ := found live
    exact same ▸ issued.known present before

theorem setValue (issued : Issued start first context) (id : ObjectId) (key : String)
    (value : Option Value)
    : Issued start first (context.setValue id key value) := by
  refine issued.within (context.sameFrame_setValue id key value) (fun found => ?_)
  obtain ⟨record, present, same, entity, _⟩ := Context.found_of_setValue found
  exact ⟨record, present, same, entity⟩

theorem setRelated (issued : Issued start first context) (id : ObjectId) (key : String)
    (ids : List ObjectId)
    : Issued start first (context.setRelated id key ids) := by
  refine issued.within (context.sameFrame_setRelated id key ids) (fun found => ?_)
  obtain ⟨record, present, same, entity, _⟩ := Context.found_of_setRelated found
  exact ⟨record, present, same, entity⟩

theorem delete (issued : Issued start first context) (id : ObjectId)
    : Issued start first (context.delete id) := by
  have sheds := (cleared_delete context id issued.keyed).sheds
  refine issued.within sheds.frame (fun found => ?_)
  obtain ⟨_, record, present, rfl⟩ := sheds.found found
  exact ⟨record, present, Record.shed_id _ record, Record.shed_entity _ record⟩

/-- A rollback goes back to the committed records and does not give any identifier back. -/
theorem rollback (numbered : start.Numbered first) (issued : Issued start first context)
    : Issued start first context.rollback := by
  have back {id : ObjectId} {record : Record} (found : context.rollback.record? id = some record)
      : start.get? id = some record := by
    rw [← issued.committed]
    exact found
  refine { committed := issued.committed
           least := issued.least
           keyed := fun found => numbered.keyed (back found)
           bounded := fun found => ?_
           known := fun found _ => Arena.entity?_of_get? (back found) }
  exact Nat.lt_of_lt_of_le (numbered.bounded (back found)) issued.least

/-- A new record stands under an identifier that is not from before the job. -/
theorem insert (issued : Issued start first context) {entity : String} {id : ObjectId}
    (inserted : context.Inserted entity id after)
    : Issued start first after where
  committed := inserted.committed.trans issued.committed
  least := by
    have := issued.least
    rw [inserted.nextId_eq]
    omega
  keyed := fun {x record} found => by
    rw [inserted.records] at found
    split at found
    · next same =>
        obtain rfl := Option.some.inj found
        exact same ▸ (context.fresh_spec id entity).1
    · exact issued.keyed found
  bounded := fun {x record} found => by
    rw [inserted.nextId_eq]
    rw [inserted.records] at found
    split at found
    · next same =>
        rw [same, inserted.rank_eq]
        omega
    · have := issued.bounded found
      omega
  known := fun {x record} found before => by
    rw [inserted.records] at found
    split at found
    · next same =>
        have := issued.least
        rw [same, inserted.rank_eq] at before
        omega
    · exact issued.known found before

/-- Whatever is inserted, nothing is seen or committed under its identifier. -/
theorem absent (numbered : start.Numbered first) (issued : Issued start first context)
    {entity : String} {id : ObjectId} (answers : context.insert entity = .ok (id, after))
    : first ≤ id.rank ∧ context.record? id = none ∧ start.get? id = none := by
  have own : id.rank = context.nextId.toNat := by
    rcases context.insert_cases entity with ⟨_, stops⟩ | ⟨_, _, answers', inserted⟩
    · rw [stops] at answers
      contradiction
    · obtain ⟨rfl, rfl⟩ := Prod.mk.inj (Except.ok.inj (answers'.symm.trans answers))
      exact inserted.rank_eq
  have least := issued.least
  refine ⟨by omega, Option.eq_none_iff_forall_ne_some.mpr (fun record found => ?_),
    Option.eq_none_iff_forall_ne_some.mpr (fun record found => ?_)⟩
  · have := issued.bounded found
    omega
  · have := numbered.bounded found
    omega

/-- Every operation keeps to the identifiers. -/
theorem perform (numbered : start.Numbered first) (issued : Issued start first context)
    {operation : Operation} (performed : context.perform operation = .ok after)
    : Issued start first after := by
  cases operation with
  | insert entity =>
      rcases context.insert_cases entity with ⟨_, stops⟩ | ⟨id, later, answers, inserted⟩
      · rw [Context.perform, stops] at performed
        contradiction
      · rw [Context.perform, answers] at performed
        obtain rfl := Except.ok.inj performed
        exact issued.insert inserted
  | setValue id key value =>
      obtain rfl := Except.ok.inj performed
      exact issued.setValue id key value
  | setRelated id key ids =>
      obtain rfl := Except.ok.inj performed
      exact issued.setRelated id key ids
  | delete id =>
      obtain rfl := Except.ok.inj performed
      exact issued.delete id
  | rollback =>
      obtain rfl := Except.ok.inj performed
      exact issued.rollback numbered

/-- Operations in any order keep to the identifiers.
Witness: induction on the operations.
-/
theorem performAll (numbered : start.Numbered first) (issued : Issued start first context)
    {operations : List Operation} (performed : context.performAll operations = .ok after)
    : Issued start first after := by
  induction operations generalizing context with
  | nil =>
      obtain rfl := Except.ok.inj performed
      exact issued
  | cons operation operations ih =>
      unfold Context.performAll at performed
      rw [List.foldlM_cons] at performed
      cases first : context.perform operation with
      | error abort =>
          rw [first] at performed
          contradiction
      | ok middle =>
          rw [first] at performed
          exact ih (issued.perform numbered first) performed

end Issued

end EntityStore
