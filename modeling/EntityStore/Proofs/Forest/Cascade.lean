import EntityStore.Proofs.Forest.Deletion
import EntityStore.Proofs.Forest.Writes

/-! Deletion takes a whole tree where every relation in it cascades.
The trees of the members of a record have nothing in common, so whatever was deleted before a member, its
tree is still whole when its turn comes; and the depth that is granted to a deletion is not used up.
-/

namespace EntityStore

variable {types : Model} {context middle later : Context} {owner member id x : ObjectId}
  {touched : ObjectId → Prop}

/-- Deleting a member dooms nothing in the tree of another member of the same owner. -/
private theorem not_doomed (forest : Forest types context)
    (confined : Confined types touched context middle) {other : ObjectId}
    (link : Linked context.record? owner member) (link' : Linked context.record? owner other)
    (distinct : other ≠ member) (path : Reaches context.record? member x)
    : ¬ Doomed middle.record? other x := by
  intro doomed
  have old : x.rank < context.nextId.toNat := by
    obtain ⟨record, found⟩ := forest.live_of_root path (forest.live_of_linked link)
    exact forest.bounded found
  rcases doomed.earlier forest confined (forest.rank_lt_of_linked link') old with path' | ⟨key, held⟩
  · exact forest.members_apart link' link distinct path' path
  · obtain ⟨key', held'⟩ := link'
    obtain rfl := (forest.sole held held').1
    exact forest.not_reaches_owner link path

/-- Deleting the members of an owner one after another takes away the whole tree of each, provided that
deleting one takes away its tree as long as that is whole.
Witness: the deletions before a member's own leave its tree whole, and those after it bring nothing back.
-/
theorem Pruned.foldl_takes (step : Context → ObjectId → Context) (ids : List ObjectId)
    (prunes
      : ∀ context id,
          Forest types context
          → Pruned types (Doomed context.record? id) context (step context id))
    (forest : Forest types context) (start : Pruned types touched context middle)
    (members : ∀ other ∈ ids, Linked context.record? owner other) (inside : member ∈ ids)
    (untouched : ∀ y, Reaches context.record? member y → ¬ touched y)
    (takes
      : ∀ later,
          Pruned types (fun y => ¬ Reaches context.record? member y) context later
          → ∀ y, Reaches context.record? member y → (step later member).record? y = none)
    (path : Reaches context.record? member x)
    : (ids.foldl step middle).record? x = none := by
  obtain ⟨front, back, rfl, first⟩ := List.eq_append_cons_of_mem inside
  have link := members member inside
  have earlier := Pruned.foldl step front prunes middle start.forest
  have whole : Pruned types (fun y => ¬ Reaches context.record? member y) context
      (front.foldl step middle) := by
    refine ⟨earlier.forest, ?_, start.frame.trans earlier.frame⟩
    refine (start.confined.mono (fun y _ touched path => untouched y path touched)).trans
      earlier.confined ?_
    intro y _ dooms path
    obtain ⟨other, listed, doomed⟩ := dooms
    refine not_doomed forest start.confined link ?_ ?_ path doomed
    · exact members other (List.mem_append_left _ listed)
    · exact fun same => first (same ▸ listed)
  have gone := takes _ whole x path
  have last := prunes _ member whole.forest
  rw [List.foldl_append, List.foldl_cons]
  refine (Pruned.foldl step back prunes _ last.forest).confined.dead ?_ gone
  obtain ⟨record, found⟩ := forest.live_of_root path (forest.live_of_linked link)
  have old := forest.bounded found
  have := whole.confined.nextId_le
  have := last.confined.nextId_le
  omega

/-- Deletion goes on along every relation in the tree of the root. -/
def Cascades (context : Context) (root : ObjectId) : Prop :=
  ∀ owner record key member,
    Reaches context.record? root owner
    → context.record? owner = some record
    → member ∈ record.related key
    → member ∈ context.cascading record

section Whole

variable (forest : Forest types context) (link : Linked context.record? owner member)
  (whole : Pruned types (fun y => ¬ Reaches context.record? member y) context later)
include forest link whole

/-- The tree of the member is as it was. -/
private theorem whole_agrees
    : ∀ y, Reaches context.record? member y → later.record? y = context.record? y :=
  whole.confined.frame_reaches forest (forest.rank_lt_of_linked link)
    (fun _ path untouched => untouched path)

/-- Deletion still goes on along every relation in the tree. -/
theorem Cascades.still (cascades : Cascades context member) : Cascades later member := by
  intro holder record key target path found inside
  have old := whole.forest.bounded found
  rw [whole.frame.nextId] at old
  have path := whole.confined.reaches forest old path
  have found := (whole_agrees forest link whole holder path).symm.trans found
  have cascading := cascades holder record key target path found inside
  unfold Context.cascading at *
  rwa [whole.frame.schema]

omit link in
/-- No more records are beyond the member than there were. -/
private theorem whole_beyond_le (id : ObjectId)
    : (later.beyond id).length ≤ (context.beyond id).length := by
  have distinct : ((later.beyond id).map (·.id)).Nodup :=
    (Context.live_ids_nodup whole.forest.keyed).sublist (List.filter_sublist.map _)
  have included : (later.beyond id).map (·.id) ⊆ (context.beyond id).map (·.id) := by
    intro y inside
    obtain ⟨record, beyond, rfl⟩ := List.mem_map.mp inside
    obtain ⟨live, further⟩ := List.mem_filter.mp beyond
    obtain ⟨y, found⟩ := Context.mem_live_iff.mp live
    have old := whole.forest.bounded found
    rw [whole.frame.nextId] at old
    obtain ⟨earlier, present, _⟩ := whole.confined.survivor old found
    refine List.mem_map.mpr ⟨earlier, List.mem_filter.mpr
      ⟨Context.mem_live_iff.mpr ⟨y, present⟩, ?_⟩, ?_⟩
    · rwa [forest.keyed present, ← whole.forest.keyed found]
    · rw [forest.keyed present, whole.forest.keyed found]
  simpa only [List.length_map] using distinct.length_le_of_subset included

end Whole

/-- A deletion takes away everything that its root reaches, where every relation in the tree cascades.
Witness: induction on the depth; every level leaves fewer records beyond it.
-/
theorem deleteWithin_takes (forest : Forest types context) (cascades : Cascades context id)
    (depth : Nat) (deep : (context.beyond id).length ≤ depth)
    : ∀ y, Reaches context.record? id y → (Context.deleteWithin depth id context).record? y = none := by
  induction depth generalizing id context with
  | zero =>
      intro y path
      cases found : context.record? id with
      | none =>
          rw [path.eq_of_dead found]
          exact found
      | some record =>
          have inside : record ∈ context.beyond id := by
            refine List.mem_filter.mpr ⟨Context.mem_live_iff.mpr ⟨id, found⟩, ?_⟩
            rw [forest.keyed found]
            exact decide_eq_true (Nat.le_refl _)
          rw [List.length_eq_zero_iff.mp (Nat.le_zero.mp deep)] at inside
          contradiction
  | succ depth ih =>
      intro y path
      unfold Context.deleteWithin
      cases found : context.record? id with
      | none =>
          rw [path.eq_of_dead found]
          exact found
      | some record =>
          have members : ∀ other ∈ context.cascading record, Linked context.record? id other :=
            fun _ inside => linked_of_cascading found inside
          have out : Pruned types (fun x => x = id ∨ Linked context.record? x id) context
              (context.takeOut id) :=
            ⟨forest.takeOut id, .takeOut forest id, Context.sameFrame_takeOut context id⟩
          rcases Relation.ReflTransGen.cases_head path with rfl | ⟨member, link, path⟩
          · have gone : (context.takeOut id).record? id = none := by
              rw [Context.record?_takeOut forest.keyed, if_pos rfl]
            refine (Pruned.foldl _ _ (fun context target => pruned_deleteWithin depth target context)
              _ out.forest).confined.dead ?_ gone
            rw [out.frame.nextId]
            exact forest.bounded found
          · have inside : member ∈ context.cascading record := by
              obtain ⟨key, owner, live, held⟩ := link
              obtain rfl : record = owner := Option.some.inj (found.symm.trans live)
              exact cascades id record key member .refl found held
            refine Pruned.foldl_takes (fun context target => Context.deleteWithin depth target context)
              _ (fun context target => pruned_deleteWithin depth target context) forest out members
              inside ?_ ?_ path
            · intro z path' given
              rcases given with rfl | above
              · exact forest.not_reaches_owner link path'
              · exact forest.not_reaches_owner link (path'.tail above)
            · intro later whole z path
              have cascades' : Cascades context member :=
                fun _ _ _ _ path => cascades _ _ _ _ (path.head link)
              refine ih whole.forest (cascades'.still forest link whole) ?_ z
                (path.congr (whole_agrees forest link whole))
              have := whole_beyond_le forest whole member
              have := forest.beyond_lt link
              omega

/-- Deleting a record takes away everything that it reaches, where every relation in its tree cascades. -/
theorem delete_takes (forest : Forest types context) (cascades : Cascades context id)
    : ∀ y, Reaches context.record? id y → (context.delete id).record? y = none :=
  deleteWithin_takes forest cascades _ (List.length_filter_le _ _)

/-- A relation that is cleared holds nothing, and the others hold what they held. -/
private theorem holds_of_clear {key k : String} {o : ObjectId}
    (held : Holds (context.setRelated owner key []).record? o k member)
    : Holds context.record? o k member := by
  cases found : context.record? owner with
  | none => rwa [Context.setRelated_of_dead found] at held
  | some record =>
      rw [holds_setRelated found] at held
      split at held
      · exact absurd held List.not_mem_nil
      · exact held

/-- Clearing a relation keeps the forest. -/
private theorem Forest.clear (forest : Forest types context) (owner : ObjectId) (key : String)
    : Forest types (context.setRelated owner key []) := by
  cases found : context.record? owner with
  | none =>
      rw [Context.setRelated_of_dead found]
      exact forest
  | some record =>
      cases held : record.related key with
      | nil =>
          rw [Context.setRelated_of_perm found (by rw [held])]
          exact forest
      | cons member members =>
          obtain ⟨field, listed, rfl, target, kind, _⟩ :=
            forest.declared found (held ▸ List.mem_cons_self : member ∈ record.related key)
          exact forest.setRelated found listed kind (fun _ inside => absurd inside List.not_mem_nil)
            (fun _ _ _ _ => Nat.zero_le 1) (fun _ inside => absurd inside List.not_mem_nil) .nil
            (fun _ inside => absurd inside List.not_mem_nil)

/-- Clearing a relation keeps the forest and touches the owner only. -/
theorem pruned_clear (forest : Forest types context) (owner : ObjectId) (key : String)
    : Pruned types (· = owner) context (context.setRelated owner key []) := by
  have frame := Context.sameFrame_setRelated context owner key []
  refine ⟨forest.clear owner key, ?_, frame⟩
  refine { committed := frame.committed
           schema := frame.schema
           nextId_le := Nat.le_of_eq (congrArg _ frame.nextId.symm)
           frame := fun _ other => by rw [Context.record?_setRelated, if_neg other]
           survivor := ?_
           inherits := fun _ held => holds_of_clear held
           incomplete := incomplete_of_setRelated }
  intro x record' _ found
  obtain ⟨record, present, _, typed, _⟩ := Context.found_of_setRelated found
  exact ⟨record, present, typed⟩

/-- A relation that is cleared, and whose members are then deleted, takes with it everything that its
owner held under its key, where every relation below the owner cascades.
-/
theorem clear_takes {key : String} {record : Record} (forest : Forest types context)
    (found : context.record? owner = some record)
    (cascades : ∀ other ∈ record.related key, Cascades context other)
    (inside : member ∈ record.related key) (path : Reaches context.record? member x)
    : ((record.related key).foldl Context.delete (context.setRelated owner key [])).record? x
      = none := by
  have linked : ∀ other ∈ record.related key, Linked context.record? owner other :=
    fun other held => ⟨key, record, found, held⟩
  have link := linked member inside
  refine Pruned.foldl_takes Context.delete _ (fun context id => pruned_delete id context) forest
    (pruned_clear forest owner key) linked inside ?_ ?_ path
  · intro y path same
    obtain rfl := same
    exact forest.not_reaches_owner link path
  · intro later whole y path
    exact delete_takes whole.forest ((cascades member inside).still forest link whole) y
      (path.congr (whole_agrees forest link whole))

end EntityStore
