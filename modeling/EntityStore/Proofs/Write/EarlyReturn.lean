import EntityStore.Proofs.Context.Job
import EntityStore.Proofs.Object.Member
import EntityStore.Service.Zoo

/-! When reconciling ends before it begins.
Nothing is settled where the members of a relation already are its objects, and only there.
-/

namespace EntityStore

namespace Object

/-- Reconciling ends before anything is settled: whatever settling were to do, the job answers with the
context that it was given.
-/
def ReturnsEarly (same : Object → Object → Bool) (model : Model) (entity : String)
    (owner : ObjectId) (key : String) (objects : List Object) (unordered deleteOld : Bool)
    (context : Context)
    : Prop :=
  ∀ settle,
    reconcile same model entity owner key objects unordered deleteOld settle context
      = .ok ((), context)

/-- What follows settling: the identifiers become the members, and what is left over is deleted, unless it
is to be kept.
-/
def replace (owner : ObjectId) (key : String) (deleteOld : Bool)
    (settled : List Member × List ObjectId)
    : Job Unit := do
  Job.write (·.setRelated owner key settled.2)
  if deleteOld then
    Job.write (fun context =>
      settled.1.foldl (fun context member => context.delete member.id) context)

/-- Reconciling tells the members first, and settles nothing where they already are the objects. -/
theorem reconcile_run (same : Object → Object → Bool) (model : Model) (entity : String)
    (owner : ObjectId) (key : String) (objects : List Object) (unordered deleteOld : Bool)
    (settle : List Member → Job (List Member × List ObjectId)) (context : Context)
    : reconcile same model entity owner key objects unordered deleteOld settle context
      = (Member.ofIds model entity context (context.related owner key)).bind
          (fun members =>
            if Member.unchanged same unordered members objects then .ok ((), context)
            else (settle members >>= replace owner key deleteOld) context) := by
  unfold reconcile
  refine (Job.bind_of_ok rfl _).trans ?_
  rw [Job.bind_run]
  cases Member.ofIds model entity context (context.related owner key) with
  | error abort => rfl
  | ok members =>
      change (ite _ _ _ : Job Unit) context = ite _ _ _
      split <;> rfl

/-- Reconciling ends early exactly where the members already are the objects. The context is then the
very one that was given, so nothing is pending that was not, and no identifier was given out.
Witness: where the test fails, a job that gives up stands for settling.
-/
theorem returnsEarly_iff {same : Object → Object → Bool} (equates : Equates same) (model : Model)
    (entity : String) (owner : ObjectId) (key : String) (objects : List Object)
    (unordered deleteOld : Bool) (context : Context)
    : ReturnsEarly same model entity owner key objects unordered deleteOld context
      ↔ ∃ members,
          Member.ofIds model entity context (context.related owner key) = .ok members
          ∧ Member.Hold same unordered members objects := by
  simp only [ReturnsEarly, reconcile_run]
  constructor
  · intro early
    have stops := early (fun _ => throw .endless)
    cases told : Member.ofIds model entity context (context.related owner key) with
    | error abort =>
        rw [told] at stops
        cases stops
    | ok members =>
        rw [told] at stops
        change ite _ _ _ = _ at stops
        split at stops
        · next unchanged => exact ⟨members, rfl, (Member.unchanged_iff equates).mp unchanged⟩
        · cases stops
  · rintro ⟨members, told, hold⟩ settle
    rw [told]
    exact if_pos ((Member.unchanged_iff equates).mpr hold)

end Object

namespace Zoo

/-- A cage of some size. -/
private def cageOf (label : String) (size : Int64) : Object :=
  .mk [.scalar (.one (.string label)), .scalar (.one (.integer size))]

/-- A yard of three cages, two of which are alike. -/
private def yard : Context :=
  let cage (id : UInt64) (label : String) (size : Int64) : Record :=
    ((Record.new ⟨id⟩ cage.name).setValue "label" (some (.string label))).setValue "size"
      (some (.integer size))
  .ofArena
    (.ofList
      ([(Record.new ⟨1⟩ "Yard").setRelated "cages" [⟨2⟩, ⟨3⟩, ⟨4⟩],
        cage 2 "low" 5, cage 3 "high" 9, cage 4 "low" 5].map (fun record => (record.id, record))))
    model.schema 5

/-- The yard holds its cages in any order, but it does not hold one of them twice in place of another. -/
theorem yard_returnsEarly
    : Equates Object.equals
      ∧ Object.ReturnsEarly Object.equals model cage.name ⟨1⟩ "cages"
        [cageOf "high" 9, cageOf "low" 5, cageOf "low" 5] true true yard
      ∧ ¬ Object.ReturnsEarly Object.equals model cage.name ⟨1⟩ "cages"
        [cageOf "high" 9, cageOf "low" 5, cageOf "high" 9] true true yard := by
  have equates := Object.equals_equates
  have told
      : Member.ofIds model cage.name yard (yard.related ⟨1⟩ "cages")
        = .ok
          [⟨⟨2⟩, some (cageOf "low" 5)⟩, ⟨⟨3⟩, some (cageOf "high" 9)⟩,
            ⟨⟨4⟩, some (cageOf "low" 5)⟩] := by
    rfl
  refine ⟨equates, (Object.returnsEarly_iff equates ..).mpr ⟨_, told, ?_⟩, ?_⟩
  · exact (Member.unchanged_iff equates).mp (by decide +kernel)
  · intro early
    obtain ⟨members, told', hold⟩ := (Object.returnsEarly_iff equates ..).mp early
    obtain rfl := Except.ok.inj (told.symm.trans told')
    exact absurd ((Member.unchanged_iff equates).mpr hold) (by decide +kernel)

end Zoo

end EntityStore
