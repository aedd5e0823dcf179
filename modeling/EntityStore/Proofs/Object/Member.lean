import EntityStore.Proofs.Object.Arranged
import EntityStore.Proofs.Object.Mapping
import EntityStore.Proofs.Object.ReadBack

/-! Members of relations and the objects that claim them.
Where every member of a relation is a stored object, the members are faithful: each comes with the
object that its record holds. A claim takes one member out of a pool and leaves the others in order.
-/

namespace EntityStore.Member

variable {types model : Model} {context : Context} {source : RecordSource} {target : String}

/-- The object that the member maps to. -/
def object (member : Member) : Object :=
  member.object?.getD default

/-- The member comes with the object that its record and its tree hold. -/
structure Faithful (model : Model) (source : RecordSource) (target : String) (member : Member)
    : Prop where
  mapped : member.object? = some member.object
  stored : Object.Stored model source target member.object member.id

/-- A member stays faithful while its tree stays as it is. -/
theorem Faithful.congr {other : RecordSource} {member : Member}
    (agree : ∀ x, Reaches source member.id x → other x = source x)
    (faithful : Faithful model source target member)
    : Faithful model other target member :=
  ⟨faithful.mapped, faithful.stored.congr _ agree⟩

theorem allStored_of_faithful (members : List Member)
    (faithful : ∀ member ∈ members, member.Faithful model source target)
    : Object.AllStored model source target (members.map object) (members.map (·.id)) := by
  rw [Object.allStored_iff, List.forall₂_map_left_iff, List.forall₂_map_right_iff,
    List.forall₂_same]
  exact fun member inside => (faithful member inside).stored

/-- The members of a relation are all found where each of them is stored. -/
theorem ofIds_of_stored (forest : Forest types context) (ids : List ObjectId)
    (each : ∀ id ∈ ids, ∃ object, Object.Stored model context.record? target object id)
    : ∃ members,
        ofIds model target context ids = .ok members
        ∧ members.map (·.id) = ids
        ∧ ∀ member ∈ members, member.Faithful model context.record? target := by
  induction ids with
  | nil => exact ⟨[], rfl, rfl, fun member inside => absurd inside List.not_mem_nil⟩
  | cons id ids ih =>
      obtain ⟨object, stored⟩ := each id List.mem_cons_self
      obtain ⟨record, found, _⟩ := stored.live
      obtain ⟨members, listed, same, faithful⟩ :=
        ih (fun other inside => each other (List.mem_cons_of_mem id inside))
      have mapped : Mapping.member? context.record? (context.map model target) id
          = .ok (some object) := by
        rw [Mapping.member?, found]
        simp only [Context.map_of_stored forest found stored]
        rfl
      refine ⟨⟨id, some object⟩ :: members, ?_, by rw [List.map_cons, same], ?_⟩
      · rw [ofIds, mapped, listed]
        rfl
      · intro member inside
        rcases List.mem_cons.mp inside with rfl | inside
        · exact ⟨rfl, stored⟩
        · exact faithful member inside

/-- A claimed member passes the test, and the pool is the member and the rest. -/
theorem take?_eq_some {test : Member → Bool} {pool rest : List Member} {member : Member}
    (taken : take? test pool = some (member, rest))
    : test member = true ∧ pool.Perm (member :: rest) ∧ rest.Sublist pool := by
  induction pool generalizing rest with
  | nil => contradiction
  | cons head pool ih =>
      rw [take?] at taken
      split at taken
      · next passes =>
          cases taken
          exact ⟨passes, .refl _, List.sublist_cons_self _ _⟩
      · obtain ⟨⟨found, left⟩, later, same⟩ := Option.map_eq_some_iff.mp taken
        cases same
        obtain ⟨passes, perm, sub⟩ := ih later
        exact ⟨passes, (perm.cons head).trans (.swap _ _ _), sub.cons_cons head⟩

theorem take?_eq_none {test : Member → Bool} {pool : List Member}
    (missing : take? test pool = none)
    : ∀ member ∈ pool, test member = false := by
  induction pool with
  | nil => exact fun member inside => absurd inside List.not_mem_nil
  | cons head pool ih =>
      rw [take?] at missing
      split at missing
      · contradiction
      · next fails =>
          intro member inside
          rcases List.mem_cons.mp inside with rfl | inside
          · exact Bool.eq_false_iff.mpr fails
          · exact ih (Option.map_eq_none_iff.mp missing) member inside

/-- Members that map to objects which equal others equal these. -/
private theorem equals_of_maps {mapped objects : List Object} {members : List Member}
    (maps : List.Forall₂ (fun object member => some object = member.object?) mapped members)
    (all : List.Forall₂ (fun candidate object => candidate.equals object = true) mapped objects)
    : List.Forall₂ (fun object member => equals object member = true) objects members := by
  induction maps generalizing objects with
  | nil =>
      cases all
      exact .nil
  | cons own _ ih =>
      cases all with
      | cons first rest =>
          refine .cons ?_ (ih rest)
          rwa [equals, ← own, Option.any_some]

/-- Members that already are the objects can be arranged like them. -/
theorem unchanged_arranged {unordered : Bool} {members : List Member} {objects : List Object}
    (same : unchanged Object.equals unordered members objects = true)
    : ∃ arranged : List Member,
        arranged.Perm members
        ∧ List.Forall₂ (fun object member => equals object member = true) objects arranged := by
  obtain ⟨mapped, candidates, maps, order, all⟩ := (unchanged_iff Object.equals_equates).mp same
  have perm : candidates.Perm mapped := by
    cases unordered with
    | true => exact order
    | false => exact .of_eq order
  have each : List.Forall₂ (fun object member => some object = member.object?) mapped members := by
    refine List.forall₂_map_left_iff.mp (List.forall₂_map_right_iff.mp ?_)
    rw [List.forall₂_eq_eq_eq]
    exact maps.symm
  obtain ⟨arranged, each, perm⟩ := List.perm_comp_forall₂ perm each
  exact ⟨arranged, perm, equals_of_maps each all⟩

/-- A faithful member that equals an object is what the object comes back as. -/
theorem Faithful.readsBack (lawful : model.Lawful types) (known : model.Knows target)
    (plain : (model.entity target).Plain) {member : Member} {object : Object}
    (faithful : member.Faithful model source target) (equal : equals object member = true)
    : Object.ReadsBack model target object member.object := by
  rw [equals, faithful.mapped, Option.any_some] at equal
  exact Object.ReadsBack.of_equals lawful known plain _ object faithful.stored equal

end EntityStore.Member
