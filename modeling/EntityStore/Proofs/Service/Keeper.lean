import EntityStore.Proofs.Batch.Step
import EntityStore.Proofs.Forest.Cascade
import EntityStore.Proofs.Service.Lawful

/-! Keepers and what is below them.
Below a keeper there are only keepers, so a store that deletes apprentices with their keeper deletes a
whole tree. Writing a keeper without apprentices takes away everything below it.
-/

namespace EntityStore

/-- Where a relation is to hold nothing, it is cleared and what it held is deleted. -/
theorem reconcile_nil {model : Model} {context : Context} {target : String} {id : ObjectId}
    {key : String} {members : List Member}
    (answers : Member.ofIds model target context (context.related id key) = .ok members)
    (listed : members.map (·.id) = context.related id key) (unordered : Bool)
    : Object.reconcile Object.equals model target id key [] unordered true
          (Object.settle model target []) context
      = .ok ((),
          (context.related id key).foldl Context.delete (context.setRelated id key [])) := by
  unfold Object.reconcile
  refine (Job.bind_of_ok rfl _).trans ?_
  rw [answers]
  refine (Job.bind_of_ok rfl _).trans ?_
  split
  · next same =>
      simp only [Member.unchanged, Bool.and_eq_true, decide_eq_true_eq] at same
      obtain rfl := List.length_eq_zero_iff.mp same.1
      have empty : context.related id key = [] := listed.symm
      rw [Context.setRelated, empty]
      rfl
  · rw [Object.settle, ← listed, List.foldl_map]
    rfl

namespace Zoo

variable {context after : Context} {owner member id x : ObjectId}

/-- A keeper with apprentices but without a name. -/
def keeperOf (badge : String) (apprentices : List Object) : Object :=
  .mk
    [.scalar (.one (.string badge)),
      .scalar (.option none),
      .scalar (.one (.bool false)),
      .members true apprentices]

/-- A keeper of keepers is a keeper. -/
theorem keeperOf_fits (badge : String) {apprentices : List Object}
    (fit : Object.allFit model keeper apprentices = true)
    : (keeperOf badge apprentices).fits model keeper = true := by
  have known : model.entity keeper.name = keeper := rfl
  have members
      : Object.contentFits model (.new "apprentices" .many (.reference keeper.name))
          (.members true apprentices)
        = true := by
    simp only [Object.contentFits, Field.new, known, fit]
    rfl
  simp only [keeperOf, Object.fits, keeper, Object.contentsFit, Bool.and_eq_true]
  exact ⟨rfl, rfl, rfl, members, trivial⟩

/-- A batch of keepers. -/
def keepers (objects : List Object)
    (typed : ∀ object ∈ objects, object.fits model keeper = true)
    : Batch where
  service := .zoo
  type := keeper
  objects
  known := by decide
  identifiable := rfl
  typed

/-- A batch of keepers without apprentices. -/
def leaves (badges : List String) : Batch :=
  keepers (badges.map (keeperOf · [])) (fun object listed => by
    obtain ⟨badge, _, rfl⟩ := List.mem_map.mp listed
    exact keeperOf_fits badge rfl)

/-- A batch of one keeper with one apprentice. -/
def couple : Batch :=
  keepers [keeperOf "k1" [keeperOf "k2" []]] (fun object listed => by
    obtain rfl := List.mem_singleton.mp listed
    exact keeperOf_fits "k1" rfl)

section Trees

variable (forest : Forest Service.types context)
include forest

/-- A keeper holds keepers, as apprentices. -/
theorem keeper_holds {record : Record} {key : String} (found : context.record? owner = some record)
    (typed : record.entity = keeper.name) (held : member ∈ record.related key)
    : key = "apprentices"
      ∧ ∃ record', context.record? member = some record' ∧ record'.entity = keeper.name := by
  have only : ∀ field ∈ (Service.types.entity keeper.name).fields, ∀ target ∈ field.target?,
      field.key = "apprentices" ∧ target = keeper.name := by
    decide
  obtain ⟨field, listed, rfl, target, kind, record', live, rfl⟩ := forest.declared found held
  obtain ⟨key, same⟩ := only field (typed ▸ listed) _ (Field.target?_eq_some.mpr kind)
  exact ⟨key, record', live, same⟩

/-- A keeper reaches only keepers. -/
theorem keeper_reaches (path : Reaches context.record? owner x)
    (upper : ∃ record, context.record? owner = some record ∧ record.entity = keeper.name)
    : ∃ record, context.record? x = some record ∧ record.entity = keeper.name := by
  induction path with
  | refl => exact upper
  | tail _ link ih =>
      obtain ⟨key, record, found, held⟩ := link
      obtain ⟨record', found', typed⟩ := ih
      obtain rfl : record = record' := Option.some.inj (found.symm.trans found')
      exact (keeper_holds forest found typed held).2

/-- Where apprentices are deleted with their keeper, deletion goes on along every relation below one. -/
theorem keeper_cascades (schema : context.schema.entity? keeper.name = some keeper.descriptor)
    (upper : ∃ record, context.record? owner = some record ∧ record.entity = keeper.name)
    : Cascades context owner := by
  intro holder record key target path found held
  obtain ⟨record', found', typed⟩ := keeper_reaches forest path upper
  obtain rfl : record = record' := Option.some.inj (found.symm.trans found')
  obtain ⟨rfl, _⟩ := keeper_holds forest found typed held
  have keys : keeper.descriptor.cascadingKeys = ["apprentices"] := by decide
  simpa only [Context.cascading, typed, schema, keys, List.flatMap_singleton] using held

end Trees

/-- The context after the attributes of a nameless keeper were written. -/
private def labelled (context : Context) (id : ObjectId) (badge : String) : Context :=
  ((context.setValue id "badge" (some (.string badge))).setValue id "name" none).setValue id
    "senior" (some (.bool false))

private theorem labelled_frame (context : Context) (id : ObjectId) (badge : String)
    : Context.SameFrame context (labelled context id badge) :=
  ((Context.sameFrame_setValue _ _ _ _).trans (Context.sameFrame_setValue _ _ _ _)).trans
    (Context.sameFrame_setValue _ _ _ _)

private theorem labelled_skeletons (context : Context) (id : ObjectId) (badge : String)
    : SameSkeletons context (labelled context id badge) := by
  intro x
  rw [labelled, sameSkeletons_setValue, sameSkeletons_setValue, sameSkeletons_setValue]

/-- Only the record of the identifier is labelled. -/
private theorem labelled_other (badge : String) (other : x ≠ id)
    : (labelled context id badge).record? x = context.record? x := by
  simp only [labelled, Context.record?_setValue, if_neg other]

/-- Labels are no relations. -/
private theorem labelled_links (context : Context) (id : ObjectId) (badge : String)
    : Linked (labelled context id badge).record? = Linked context.record? := by
  have same := labelled_skeletons context id badge
  funext owner member
  exact propext ⟨fun ⟨key, held⟩ => ⟨key, same.holds held⟩,
    fun ⟨key, held⟩ => ⟨key, same.symm.holds held⟩⟩

private theorem labelled_writable (writable : Writable Service.types keeper.name id context)
    (badge : String)
    : Writable Service.types keeper.name id (labelled context id badge) := by
  have same := labelled_skeletons context id badge
  have next := (labelled_frame context id badge).nextId
  refine ⟨writable.forest.congr_skeletons same (Nat.le_of_eq (by rw [next])), ?_, ?_, ?_⟩
  · rw [next]
    exact writable.given
  · intro record found
    obtain ⟨record', present, _, typed, _⟩ := same.found found
    exact typed.trans (writable.typed present)
  · intro x below
    rw [Below, labelled_links] at below
    have other : x ≠ id := fun same => writable.forest.not_below_self id (same ▸ below)
    have complete := writable.tidy x below
    rwa [Incomplete, labelled_other badge other]

/-- Writing a keeper without apprentices writes its attributes, clears its apprentices and deletes them. -/
private theorem write_leaf (writable : Writable Service.types keeper.name id context) (badge : String)
    : Object.write model keeper.name (keeperOf badge []) id context
      = .ok ((),
          ((labelled context id badge).related id "apprentices").foldl Context.delete
            ((labelled context id badge).setRelated id "apprentices" [])) := by
  let field : Field := .new "apprentices" .many (.reference keeper.name)
  have inside : field ∈ (model.entity keeper.name).fields := by decide
  have later : Writable Service.types keeper.name id (labelled context id badge) :=
    labelled_writable writable badge
  obtain ⟨members, answers, listed, _⟩ := Member.ofIds_of_stored later.forest _
    (later.members_stored Service.lawful_zoo (Service.lawful_zoo.knows (by decide)) inside rfl)
  have cleared := reconcile_nil answers listed true
  rw [keeperOf, Object.write]
  have fields : (model.entity keeper.name).fields = keeper.fields := rfl
  rw [fields, keeper]
  simp only [Object.writeContents]
  refine (Job.bind_of_ok rfl _).trans ?_
  refine (Job.bind_of_ok rfl _).trans ?_
  refine (Job.bind_of_ok rfl _).trans ?_
  refine (Job.bind_of_ok cleared _).trans rfl

/-- A keeper without apprentices is written over any keeper, and takes away everything below it. -/
theorem leaf_written (writable : Writable Service.types keeper.name id context)
    (schema : context.schema.entity? keeper.name = some keeper.descriptor) (badge : String)
    : ∃ after,
        Object.write model keeper.name (keeperOf badge []) id context = .ok ((), after)
        ∧ Context.SameFrame context after
        ∧ ∀ x, Below context.record? id x → after.record? x = none := by
  have later := labelled_writable writable badge
  have frame := labelled_frame context id badge
  have cleared := pruned_clear later.forest id "apprentices"
  have pruned := pruned_foldl_delete ((labelled context id badge).related id "apprentices") _
    cleared.forest
  refine ⟨_, write_leaf writable badge, (frame.trans cleared.frame).trans pruned.frame, ?_⟩
  intro x below
  rw [Below, ← labelled_links context id badge] at below
  obtain ⟨member, link, path⟩ := Relation.TransGen.head'_iff.mp below
  obtain ⟨key, record, found, held⟩ := link
  have typed := later.typed found
  obtain ⟨rfl, _⟩ := keeper_holds later.forest found typed held
  rw [Context.related_eq found]
  refine clear_takes later.forest found (fun other listed => ?_) held path
  exact keeper_cascades later.forest (by rwa [frame.schema])
    (keeper_holds later.forest found typed listed).2

end Zoo

end EntityStore
