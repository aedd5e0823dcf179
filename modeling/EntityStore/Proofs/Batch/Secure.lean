import EntityStore.Proofs.Batch.Step

/-! Batches that lose nothing.
A batch loses an identifier only where it deletes the record that it has looked up, or has written, for
it. That cannot happen where every identifier has a record that stands below none of the records that
the other identifiers resolve to.
-/

namespace EntityStore

variable {types model : Model} {context before middle after : Context} {type : EntityType}
  {object : Object} {objects : List Object} {known : Table String ObjectId} {text : String}
  {id : ObjectId}

/-- Every one of the texts that is carried at all is carried by a record that is below none of those
which the other texts resolve to.
-/
def Secure (context : Context) (type : EntityType) (texts : List String) : Prop :=
  ∀ text ∈ texts,
    (∃ id, Carries context.record? type text id)
    → ∃ id,
        Carries context.record? type text id
        ∧ ∀ other ∈ texts, ∀ root,
            other ≠ text → Resolves context type other root → ¬ Below context.record? root id

/-- Texts of a type that does not reach itself are secure. -/
theorem Secure.of_apart (lawful : model.Lawful types) (forest : Forest types context)
    (inside : type ∈ model.entities)
    (apart : ¬ Relation.TransGen model.Refers type.name type.name) (texts : List String)
    : Secure context type texts := by
  intro text _ ⟨id, carries⟩
  refine ⟨id, carries, fun other _ root distinct resolves path => ?_⟩
  have same := forest.eq_of_reaches lawful inside apart resolves.1.live carries.live
    path.to_reflTransGen
  exact distinct (resolves.1.unique (same ▸ carries))

section Written

variable (lawful : model.Lawful types) (inside : type ∈ model.entities)
  (identifiable : type.isIdentifiable = true) (forest : Forest types before)
  (fits : ∀ object ∈ objects, object.fits model type = true)
  (distinct : (objects.map type.identifier).Nodup)
  (upserts : Upserts types model type objects known before after)
include lawful inside identifiable forest fits distinct upserts

/-- A live record that is known keeps its object, if no other known record reaches it. -/
private theorem Upserts.carries_of_known (listed : object ∈ objects)
    (found : known.get? (type.identifier object) = some id)
    (live : ∃ record, before.record? id = some record)
    (clear
      : ∀ other ∈ objects.map type.identifier, ∀ root,
          other ≠ type.identifier object
          → known.get? other = some root
          → ¬ Reaches before.record? root id)
    : Carries after.record? type (type.identifier object) id := by
  obtain ⟨record, present⟩ := live
  have old := forest.bounded present
  induction upserts generalizing record with
  | nil => exact absurd listed List.not_mem_nil
  | @updated head objects known root before middle after known' written _ later ih =>
      obtain ⟨unnamed, distinct'⟩ := List.nodup_cons.mp distinct
      have old' := Nat.lt_of_lt_of_le old written.confined.nextId_le
      rcases List.mem_cons.mp listed with rfl | listed
      · obtain rfl : root = id := Option.some.inj (known'.symm.trans found)
        obtain ⟨read, back, stored⟩ := written.result present
        have carries := lawful.carries inside identifiable (fits _ List.mem_cons_self) back stored
        refine carries.congr (later.frame written.forest distinct' old' ?_)
        intro other named root' found' path
        exact clear other (List.mem_cons_of_mem _ named) root' (fun same => unnamed (same ▸ named))
          found' (written.confined.reaches forest old path)
      · have apart : type.identifier head ≠ type.identifier object :=
          fun same => unnamed (same ▸ List.mem_map_of_mem listed)
        have same := written.confined.frame old
          (clear _ List.mem_cons_self root apart known')
        refine ih written.forest (fun other listed => fits other (List.mem_cons_of_mem _ listed))
          distinct' listed found ?_ record (same.trans present) old'
        intro other named root' apart' found' path
        exact clear other (List.mem_cons_of_mem _ named) root' apart' found'
          (written.confined.reaches forest old path)
  | @added head objects known root before middle after missing added _ later ih =>
      obtain ⟨unnamed, distinct'⟩ := List.nodup_cons.mp distinct
      rcases List.mem_cons.mp listed with rfl | listed
      · rw [missing] at found
        contradiction
      · have apart {other : String} (named : other ∈ objects.map type.identifier)
            : other ≠ type.identifier head := fun same => unnamed (same ▸ named)
        have same := added.confined.frame old (fun nothing => nothing)
        refine ih added.forest (fun other listed => fits other (List.mem_cons_of_mem _ listed))
          distinct' listed ?_ ?_ record (same.trans present)
          (Nat.lt_of_lt_of_le old added.confined.nextId_le)
        · rw [Table.get?_insert, if_neg (apart (List.mem_map_of_mem listed))]
          exact found
        · intro other named root' apart' found' path
          rw [Table.get?_insert, if_neg (apart named)] at found'
          exact clear other (List.mem_cons_of_mem _ named) root' apart' found'
            (added.confined.reaches forest old path)

/-- An object that is not known is added, and its record stays: nothing older ever holds it. -/
private theorem Upserts.carries_of_missing (addressed : Addressed type known before)
    (listed : object ∈ objects) (missing : known.get? (type.identifier object) = none)
    : ∃ id, Carries after.record? type (type.identifier object) id := by
  induction upserts with
  | nil => exact absurd listed List.not_mem_nil
  | @updated head objects known root before middle after known' written _ later ih =>
      rcases List.mem_cons.mp listed with rfl | listed
      · rw [missing] at known'
        contradiction
      · exact ih written.forest (fun other listed => fits other (List.mem_cons_of_mem _ listed))
          (List.nodup_cons.mp distinct).2 (addressed.confined written.confined) listed missing
  | @added head objects known root before middle after _ added _ later ih =>
      obtain ⟨unnamed, distinct'⟩ := List.nodup_cons.mp distinct
      have apart {other : String} (named : other ∈ objects.map type.identifier)
          : other ≠ type.identifier head := fun same => unnamed (same ▸ named)
      rcases List.mem_cons.mp listed with rfl | listed
      · obtain ⟨read, back, stored⟩ := added.result
        have carries := lawful.carries inside identifiable (fits _ List.mem_cons_self) back stored
        obtain ⟨record, present, _⟩ := carries.live
        refine ⟨root, carries.congr
          (later.frame added.forest distinct' (added.forest.bounded present) ?_)⟩
        intro other named root' found' path
        rw [Table.get?_insert, if_neg (apart named)] at found'
        have old := (addressed found').1
        have unborn := added.unborn
        rcases Relation.ReflTransGen.cases_tail path with same | ⟨holder, _, link⟩
        · rw [same] at unborn
          omega
        · exact added.unheld holder link
      · refine ih added.forest (fun other listed => fits other (List.mem_cons_of_mem _ listed))
          distinct' (addressed.insert _ added) listed ?_
        rw [Table.get?_insert, if_neg (apart (List.mem_map_of_mem listed))]
        exact missing

end Written

/-- Some record that carries a text is the youngest one. -/
theorem Carries.exists_resolves (forest : Forest types context)
    (carries : Carries context.record? type text id)
    : ∃ root, Resolves context type text root := by
  have bounded {other : ObjectId} (carries : Carries context.record? type text other)
      : other.rank < context.nextId.toNat := by
    obtain ⟨record, found, _⟩ := carries.live
    exact forest.bounded found
  generalize height : context.nextId.toNat - id.rank = n
  induction n using Nat.strongRecOn generalizing id with
  | ind n ih =>
      by_cases greatest : ∀ other, Carries context.record? type text other → other.rank ≤ id.rank
      · exact ⟨id, carries, greatest⟩
      · simp only [not_forall, Nat.not_le] at greatest
        obtain ⟨other, carries', younger⟩ := greatest
        have := bounded carries'
        exact ih (context.nextId.toNat - other.rank) (by omega) carries' rfl

/-- A batch of objects with different identifiers out of a secure list loses none of them.
Witness: an identifier that nothing carries is added for good. Otherwise the record that it resolves to is
written over and stays, or some record that carries it is not touched by the batch at all.
-/
theorem Upserts.carried (lawful : model.Lawful types) (inside : type ∈ model.entities)
    (identifiable : type.isIdentifiable = true) (forest : Forest types before)
    (fits : ∀ object ∈ objects, object.fits model type = true)
    (distinct : (objects.map type.identifier).Nodup)
    (upserts : Upserts types model type objects (type.found objects before) before after)
    {texts : List String} (part : objects.map type.identifier ⊆ texts)
    (secure : Secure before type texts)
    : ∀ object ∈ objects, ∃ id, Carries after.record? type (type.identifier object) id := by
  have found_iff {text : String} {id : ObjectId}
      : (type.found objects before).get? text = some id
        ↔ text ∈ objects.map type.identifier ∧ Resolves before type text id :=
    found_get?_iff lawful inside identifiable forest.keyed
  intro object listed
  have named : type.identifier object ∈ objects.map type.identifier := List.mem_map_of_mem listed
  cases found : (type.found objects before).get? (type.identifier object) with
  | none =>
      exact upserts.carries_of_missing lawful inside identifiable forest fits distinct
        (found_addressed lawful inside identifiable forest objects) listed found
  | some root =>
      have resolves := (found_iff.mp found).2
      obtain ⟨id, carries, clear⟩ := secure _ (part named) ⟨root, resolves.1⟩
      have untouched {other : String} (named' : other ∈ objects.map type.identifier)
          {root' : ObjectId} (apart : other ≠ type.identifier object)
          (found' : (type.found objects before).get? other = some root')
          : ¬ Reaches before.record? root' id := by
        have resolves' := (found_iff.mp found').2
        intro path
        rcases Relation.reflTransGen_iff_eq_or_transGen.mp path with same | below
        · exact apart (resolves'.1.unique (same ▸ carries))
        · exact clear other (part named') root' apart resolves' below
      by_cases path : Reaches before.record? root id
      · refine ⟨root, upserts.carries_of_known lawful inside identifiable forest fits distinct
          listed found ?_ ?_⟩
        · obtain ⟨record, present, _⟩ := resolves.1.live
          exact ⟨record, present⟩
        · exact fun other named' root' apart found' path' =>
            untouched named' apart found' (path'.trans path)
      · obtain ⟨record, present, _⟩ := carries.live
        refine ⟨id, carries.congr (upserts.frame forest distinct (forest.bounded present) ?_)⟩
        intro other named' root' found' path'
        by_cases apart : other = type.identifier object
        · rw [apart, found] at found'
          exact path (Option.some.inj found' ▸ path')
        · exact untouched named' apart found' path'

end EntityStore
