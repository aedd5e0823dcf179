import EntityStore.Proofs.Object.Exact
import EntityStore.Proofs.Write.Basic

/-! Writing an object over the record that holds it.
Every slot already is what its content is written as, and the members of every relation map to the very
objects that the relation is to hold, so nothing is written. The members may share identifiers: none of
them is looked for.
-/

namespace EntityStore

variable {types model : Model} {context : Context} {entity target : String} {id : ObjectId}
  {record : Record} {field : Field}

/-- Members that map to objects which equal themselves are these objects, whether their order matters or
not. -/
theorem Member.unchanged_own {members : List Member}
    (mapped : ∀ member ∈ members, member.object? = some member.object)
    (equal : ∀ member ∈ members, member.equals member.object = true) (unordered : Bool)
    : unchanged Object.equals unordered members (members.map object) = true := by
  refine (unchanged_iff Object.equals_equates).mpr
    ⟨members.map object, members.map object, ?_, ?_, ?_⟩
  · rw [List.map_map]
    exact List.map_congr_left mapped
  · cases unordered with
    | true => exact .refl _
    | false => rfl
  · refine List.forall₂_same.mpr (fun object listed => ?_)
    obtain ⟨member, inside, rfl⟩ := List.mem_map.mp listed
    have own := equal member inside
    rwa [equals, mapped member inside, Option.any_some] at own

/-- A faithful member of a type without floating point numbers equals the object that it maps to. -/
theorem Member.Faithful.equals_own (lawful : model.Lawful types) (known : model.Knows target)
    (exact : (model.entity target).Exact) (forest : Forest types context) {member : Member}
    (faithful : member.Faithful model context.record? target)
    : member.equals member.object = true := by
  obtain ⟨record, found, _⟩ := faithful.stored.live
  have exact := Mapping.exact_of_pure lawful _ known exact
    (Context.map_of_stored forest found faithful.stored)
  rw [equals, faithful.mapped, Option.any_some]
  exact (exact.equals_iff _ _).mpr rfl

namespace Object

/-- A record holds one object only, because it maps to one only. -/
theorem Stored.unique (forest : Forest types context) {object other : Object}
    (stored : Stored model context.record? entity object id)
    (stored' : Stored model context.record? entity other id)
    : object = other := by
  obtain ⟨record, found, _⟩ := stored.live
  have maps := (Context.map_of_stored forest found stored).symm.trans
    (Context.map_of_stored forest found stored')
  exact Except.ok.inj (Except.ok.inj maps)

theorem AllStored.unique (forest : Forest types context) {objects others : List Object}
    {ids : List ObjectId} (stored : AllStored model context.record? target objects ids)
    (stored' : AllStored model context.record? target others ids)
    : objects = others :=
  List.left_unique_forall₂' (fun _ _ _ first second => first.unique forest second)
    (allStored_iff.mp stored) (allStored_iff.mp stored')

-----------------------------------------------------------------------------------------
-- Fields
-----------------------------------------------------------------------------------------

/-- A slot that is what a content is written as is left as it is. -/
theorem writeContent_slot (model : Model) (found : context.record? id = some record) {content : Content}
    (slot : ∀ present objects, content ≠ .members present objects)
    (stored : field.skipped = false → ContentStored model context.record? record field content)
    : writeContent model field content id context = .ok ((), context) := by
  cases content with
  | scalar content =>
      rw [writeContent]
      split
      · rfl
      · next kept =>
          obtain ⟨_, _, _, _, slot⟩ := by simpa only [ContentStored] using stored (by simpa using kept)
          rw [Job.write, Context.setValue_of_value? found slot]
          rfl
  | textual content =>
      rw [writeContent]
      split
      · rfl
      · next kept =>
          obtain ⟨_, _, _, _, slot⟩ := by simpa only [ContentStored] using stored (by simpa using kept)
          rw [slot]
          refine (Job.bind_of_ok rfl _).trans ?_
          rw [Job.write, Context.setValue_of_value? found rfl]
          rfl
  | members present objects => exact absurd rfl (slot present objects)

section Stored

variable (lawful : model.Lawful types) (known : model.Knows entity) (forest : Forest types context)
  (found : context.record? id = some record)
include lawful known forest found

/-- A relation is left as it is where it is brought to hold the objects that it holds. -/
private theorem reconcile_stored (inside : field ∈ (model.entity entity).fields)
    (kind : field.kind = .reference target) {objects : List Object}
    (stored : AllStored model context.record? target objects (record.related field.key))
    (unordered deleteOld : Bool)
    : reconcile equals model target id field.key objects unordered deleteOld
          (settle model target objects) context
        = .ok ((), context) := by
  obtain ⟨_, known', plain⟩ := lawful.reference known inside kind
  obtain ⟨members, answers, listed, faithful⟩ := Member.ofIds_of_stored forest _
    (fun member inside =>
      have ⟨object, _, held⟩ := stored.each member inside
      ⟨object, held⟩)
  have own : members.map Member.object = objects := by
    have held := Member.allStored_of_faithful members faithful
    rw [listed] at held
    exact held.unique forest stored
  have same : Member.unchanged equals unordered members objects = true := by
    rw [← own]
    exact Member.unchanged_own (fun member listed => (faithful member listed).mapped)
      (fun member listed => (faithful member listed).equals_own lawful known' plain.exact forest) _
  rw [← Context.related_eq found] at answers
  unfold reconcile
  refine (Job.bind_of_ok rfl _).trans ?_
  rw [answers]
  refine (Job.bind_of_ok rfl _).trans ?_
  rw [if_pos same]
  rfl

/-- Contents that are stored are left as they are. -/
private theorem writeContents_stored (fields : List Field)
    (part : fields ⊆ (model.entity entity).fields) {contents : List Content}
    (stored : ContentsStored model context.record? record fields contents)
    : writeContents model fields contents id context = .ok ((), context) := by
  induction fields generalizing contents with
  | nil =>
      obtain rfl := contentsStored_nil.mp stored
      rw [writeContents]
      · rfl
      · simp
  | cons field fields ih =>
      obtain ⟨content, contents, rfl, first, rest⟩ := contentsStored_cons.mp stored
      obtain ⟨inside, part⟩ := List.cons_subset.mp part
      have here : writeContent model field content id context = .ok ((), context) := by
        by_cases members : ∃ present objects, content = .members present objects
        · obtain ⟨present, objects, rfl⟩ := members
          cases skipped : field.skipped with
          | true =>
              rw [writeContent]
              simp only [skipped, if_true]
              cases field.kind <;> rfl
          | false =>
              rw [FieldStored, if_neg (by simp [skipped])] at first
              obtain ⟨target, kind, _, _, held⟩ := by simpa only [ContentStored] using first
              rw [writeContent_members kind skipped]
              exact reconcile_stored lawful known forest found inside kind held _ _
        · refine writeContent_slot model found
            (fun present objects same => members ⟨present, objects, same⟩) (fun kept => ?_)
          rwa [FieldStored, if_neg (by simp [kept])] at first
      rw [writeContents, Job.bind_of_ok here]
      exact ih part rest

end Stored

/-- An object that is written over the record that holds it leaves everything as it is. -/
theorem write_stored (lawful : model.Lawful types) (known : model.Knows entity)
    (forest : Forest types context) {object : Object}
    (stored : Stored model context.record? entity object id)
    : write model entity object id context = .ok ((), context) := by
  cases object with
  | mk contents =>
      obtain ⟨record, found, _, held⟩ := by simpa only [Stored] using stored
      rw [write]
      exact writeContents_stored lawful known forest found _ (List.Subset.refl _) held

end Object

end EntityStore
