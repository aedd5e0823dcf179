import EntityStore.Proofs.Context.Overlay
import EntityStore.Proofs.Mapping.Enters
import EntityStore.Proofs.Service.Reference
import Mathlib.Data.List.Chain
import Mathlib.Data.List.ProdSigma

/-! Which mappings end.
A mapping never ends exactly where it leads to a record that it enters again from there on, and it gives
up exactly where it leads to a record that gives up. There are only so many records and entity types, so
a way that is long enough comes to one of them twice, and the depth that a context grants is enough to
tell.
-/

namespace EntityStore

namespace Mapping

variable {model : Model} {source : RecordSource} {start node : Node} {abort : Abort}

/-- Mapping the first record comes to map the second one. -/
def Enters (model : Model) (source : RecordSource) (node next : Node) : Prop :=
  ∃ depth,
    EntersBy source (ofRecordWithin model source depth) (model.entity node.1) node.2 next

/-- Mapping the record gives up at one of its texts. -/
def GivesUp (model : Model) (source : RecordSource) (node : Node) (abort : Abort) : Prop :=
  ∃ depth,
    GivesUpBy source (ofRecordWithin model source depth) (model.entity node.1) node.2 abort

/-- Mapping the record leads to a record that it enters again from there on. -/
def Circular (model : Model) (source : RecordSource) (start : Node) : Prop :=
  ∃ node,
    Relation.ReflTransGen (Enters model source) start node
    ∧ Relation.TransGen (Enters model source) node node

/-- Mapping the record leads to a record that gives up. -/
def Breaks (model : Model) (source : RecordSource) (start : Node) (abort : Abort) : Prop :=
  ∃ node,
    Relation.ReflTransGen (Enters model source) start node ∧ GivesUp model source node abort

/-- Mapping the record leads neither to a record that it enters again from there on nor to one that gives
up.
-/
def Straight (model : Model) (source : RecordSource) (start : Node) : Prop :=
  ¬ Circular model source start ∧ ∀ abort, ¬ Breaks model source start abort

-----------------------------------------------------------------------------------------
-- Depths
-----------------------------------------------------------------------------------------

/-- Mapping a record stops where reading its fields does. -/
theorem ofRecordWithin_succ_eq_stop_iff {depth : Nat}
    : ofRecordWithin model source (depth + 1) node.1 node.2 = stop abort
      ↔ contents source (ofRecordWithin model source depth) (model.entity node.1).name node.2
          (model.entity node.1).fields
        = stop abort := by
  rw [ofRecordWithin, bind_eq_stop_iff]
  refine or_iff_left ?_
  rintro ⟨contents, _, stops⟩
  cases stops

/-- What a mapping makes of a record it makes of it with more depth, unless it has used its depth up. -/
theorem ofRecordWithin_of_deeper {depth more : Nat} (deeper : depth ≤ more) {entity : String}
    {record : Record} (ends : ofRecordWithin model source depth entity record ≠ endless)
    : ofRecordWithin model source more entity record
      = ofRecordWithin model source depth entity record :=
  (ofRecordWithin_extends model source deeper entity record).resolve_left ends

/-- A mapping uses its depth up where it enters a record whose mapping uses up one less. -/
theorem ofRecordWithin_succ_eq_endless_iff {depth : Nat}
    : ofRecordWithin model source (depth + 1) node.1 node.2 = endless
      ↔ ∃ next,
          Enters model source node next
          ∧ ofRecordWithin model source depth next.1 next.2 = endless := by
  have stops_iff := @contents_stops_iff source (ofRecordWithin model source depth)
    (model.entity node.1) node.2 .endless
  have reads_iff := @ofRecordWithin_succ_eq_stop_iff model source node .endless depth
  refine reads_iff.trans ?_
  constructor
  · intro stops
    rcases stops_iff.mp stops with gives | ⟨next, enters, used⟩
    · exact absurd rfl gives.ne_endless
    · exact ⟨next, ⟨depth, enters⟩, used⟩
  · rintro ⟨next, ⟨other, enters⟩, used⟩
    have here : contents source (ofRecordWithin model source depth) (model.entity node.1).name node.2
          (model.entity node.1).fields = stop .endless
        ∨ EntersBy source (ofRecordWithin model source depth) (model.entity node.1) node.2 next := by
      rcases Nat.le_total other depth with less | more
      · exact Or.inr (enters.deeper (ofRecordWithin_extends model source less))
      · exact enters.shallower (ofRecordWithin_extends model source more)
    rcases here with stops | enters
    · exact stops
    · exact stops_iff.mpr (Or.inr ⟨next, enters, used⟩)

-----------------------------------------------------------------------------------------
-- Ways
-----------------------------------------------------------------------------------------

/-- A mapping that uses up its depth goes a way of that length.
Witness: induction on the depth; each step of the way is one that the mapping enters.
-/
theorem exists_way {depth : Nat} (used : ofRecordWithin model source depth node.1 node.2 = endless)
    : ∃ way : List Node, way.length = depth ∧ List.IsChain (Enters model source) (node :: way) := by
  induction depth generalizing node with
  | zero => exact ⟨[], rfl, .singleton _⟩
  | succ depth ih =>
      obtain ⟨next, enters, used⟩ := ofRecordWithin_succ_eq_endless_iff.mp used
      obtain ⟨way, length, chain⟩ := ih used
      exact ⟨next :: way, congrArg Nat.succ length, .cons_cons enters chain⟩

/-- From a circular record the way goes on to another one. -/
theorem Circular.next (circular : Circular model source start)
    : ∃ next, Enters model source start next ∧ Circular model source next := by
  obtain ⟨node, way, back⟩ := circular
  rcases Relation.ReflTransGen.cases_head way with rfl | ⟨next, enters, rest⟩
  · obtain ⟨next, enters, rest⟩ := Relation.TransGen.head'_iff.mp back
    exact ⟨next, enters, start, rest, back⟩
  · exact ⟨next, enters, node, rest, back⟩

/-- A circular record uses up any depth.
Witness: induction on the depth; there is always a next record.
-/
theorem Circular.endless (circular : Circular model source start) (depth : Nat)
    : ofRecordWithin model source depth start.1 start.2 = endless := by
  induction depth generalizing start with
  | zero => rfl
  | succ depth ih =>
      obtain ⟨next, enters, circular⟩ := circular.next
      exact ofRecordWithin_succ_eq_endless_iff.mpr ⟨next, enters, ih circular⟩

/-- A type refers to the types that mapping a record of it enters. -/
theorem Enters.refers {next : Node} (enters : Enters model source node next)
    : model.Refers node.1 next.1 := by
  obtain ⟨_, fields, _, _, kind, _⟩ := enters
  refine ⟨_, ?_, kind⟩
  rw [fields]
  exact List.mem_append_right _ List.mem_cons_self

/-- What is entered is a record of the source. -/
theorem Enters.found {next : Node} (enters : Enters model source node next)
    : ∃ id, source id = some next.2 := by
  obtain ⟨_, _, _, _, _, _, _, found⟩ := enters
  exact ⟨_, found⟩

/-- What is on a chain between its ends follows something and is followed. -/
private theorem between {α : Type} {r : α → α → Prop} {first x : α} {chain : List α}
    (chained : List.IsChain r (first :: chain)) (inside : x ∈ chain.dropLast)
    : (∃ before, r before x) ∧ ∃ after, r x after := by
  induction chain generalizing first with
  | nil => contradiction
  | cons second chain ih =>
      obtain ⟨step, rest⟩ := List.isChain_cons_cons.mp chained
      cases chain with
      | nil => contradiction
      | cons third chain =>
          rcases List.mem_cons.mp inside with rfl | inside
          · exact ⟨⟨first, step⟩, third, (List.isChain_cons_cons.mp rest).1⟩
          · exact ih rest inside

/-- A way that comes to no record twice is no longer than there are records for entity types, and a last
step.
-/
theorem length_le_of_not_circular {context : Context} {way : List Node}
    (chain : List.IsChain (Enters model context.record?) (start :: way))
    (straight : ¬ Circular model context.record? start)
    : way.length ≤ model.entities.length * context.live.length + 1 := by
  have leads : (start :: way).Pairwise (Relation.TransGen (Enters model context.record?)) :=
    (chain.imp (fun _ _ => Relation.TransGen.single)).pairwise
  obtain ⟨reached, leads⟩ := List.pairwise_cons.mp leads
  have distinct : way.Nodup := by
    refine List.Pairwise.imp_of_mem (fun {a b} inside _ back same => ?_) leads
    exact straight ⟨a, (reached a inside).to_reflTransGen, same ▸ back⟩
  have part : way.dropLast ⊆ (model.entities.map (·.name)) ×ˢ context.live := by
    intro node inside
    obtain ⟨⟨before, entered⟩, after, enters⟩ := between chain inside
    obtain ⟨type, listed, name, _⟩ := enters.refers.listed
    obtain ⟨id, found⟩ := entered.found
    exact List.mem_product.mpr
      ⟨List.mem_map.mpr ⟨type, listed, name⟩, Context.mem_live_iff.mpr ⟨id, found⟩⟩
  have bound := (List.subperm_of_subset (distinct.sublist (List.dropLast_sublist way)) part).length_le
  rw [List.length_product, List.length_map, List.length_dropLast] at bound
  omega

/-- The depth that a context grants is used up only by circular records. -/
theorem map_eq_endless_iff {context : Context}
    : context.map model start.1 start.2 = endless ↔ Circular model context.record? start := by
  constructor
  · intro used
    by_contra straight
    obtain ⟨way, length, chain⟩ := exists_way used
    have bound := length_le_of_not_circular chain straight
    have granted : context.mappingDepth model
        = model.entities.length * context.live.length + context.live.length
          + model.entities.length + 1 := by
      rw [Context.mappingDepth, Nat.add_mul, Nat.mul_add, Nat.mul_comm context.live.length]
      omega
    cases way with
    | nil => simp [granted] at length
    | cons first way =>
        obtain ⟨type, listed, _⟩ := (List.isChain_cons_cons.mp chain).1.refers.listed
        have some := List.length_pos_of_mem listed
        omega
  · exact fun circular => circular.endless _

-----------------------------------------------------------------------------------------
-- Outcomes
-----------------------------------------------------------------------------------------

/-- A mapping of some depth gives up exactly where it leads to a record that does.
Witness: everything on the way has been read within some depth, and the greatest of these will do.
-/
theorem exists_stop_iff (gives : abort ≠ .endless)
    : (∃ depth, ofRecordWithin model source depth start.1 start.2 = stop abort)
      ↔ Breaks model source start abort := by
  constructor
  · rintro ⟨depth, stops⟩
    induction depth generalizing start with
    | zero =>
        cases stops
        exact absurd rfl gives
    | succ depth ih =>
        rcases contents_stops_iff.mp (ofRecordWithin_succ_eq_stop_iff.mp stops)
          with gives | ⟨next, enters, stops⟩
        · exact ⟨start, .refl, depth, gives⟩
        · obtain ⟨node, way, gives⟩ := ih stops
          exact ⟨node, way.head ⟨depth, enters⟩, gives⟩
  · rintro ⟨node, way, depth, text⟩
    induction way using Relation.ReflTransGen.head_induction_on with
    | refl =>
        refine ⟨depth + 1, ofRecordWithin_succ_eq_stop_iff.mpr ?_⟩
        exact contents_stops_iff.mpr (Or.inl text)
    | @head node next enters _ ih =>
        obtain ⟨within, stops⟩ := ih
        obtain ⟨other, enters⟩ := enters
        let most := max within other
        have stops : ofRecordWithin model source most next.1 next.2 = stop abort := by
          rw [ofRecordWithin_of_deeper (Nat.le_max_left within other), stops]
          intro used
          rw [used] at stops
          cases stops
          exact gives rfl
        have enters := enters.deeper (ofRecordWithin_extends model source (Nat.le_max_right within other))
        refine ⟨most + 1, ofRecordWithin_succ_eq_stop_iff.mpr ?_⟩
        exact contents_stops_iff.mpr (Or.inr ⟨next, enters, stops⟩)

/-- Giving up at a text is no endless mapping. -/
theorem Breaks.ne_endless (breaks : Breaks model source start abort) : abort ≠ .endless := by
  obtain ⟨_, _, _, gives⟩ := breaks
  exact gives.ne_endless

/-- A mapping that ends within some depth is straight. -/
theorem straight_of_ends {depth : Nat} {result : Except MappingError Object}
    (ends : (ofRecordWithin model source depth start.1 start.2).run = .ok result)
    : Straight model source start := by
  have goes : ofRecordWithin model source depth start.1 start.2 ≠ endless := by
    intro used
    rw [used] at ends
    cases ends
  refine ⟨fun circular => goes (circular.endless depth), fun abort breaks => ?_⟩
  obtain ⟨other, stops⟩ := (exists_stop_iff breaks.ne_endless).mpr breaks
  have same : ofRecordWithin model source depth start.1 start.2
      = ofRecordWithin model source other start.1 start.2 := by
    rcases Nat.le_total depth other with more | less
    · exact (ofRecordWithin_of_deeper more goes).symm
    · refine ofRecordWithin_of_deeper less (fun used => ?_)
      rw [used] at stops
      cases stops
      exact breaks.ne_endless rfl
  rw [same, stops] at ends
  cases ends

/-- A straight mapping ends within the depth that a context grants. -/
theorem Straight.map_isOk {context : Context} (straight : Straight model context.record? start)
    : ∃ result, (context.map model start.1 start.2).run = .ok result := by
  cases outcome : (context.map model start.1 start.2).run with
  | ok result => exact ⟨result, rfl⟩
  | error abort =>
      by_cases used : abort = .endless
      · subst used
        exact absurd (map_eq_endless_iff.mp outcome) straight.1
      · exact absurd ((exists_stop_iff used).mp ⟨_, outcome⟩) (straight.2 abort)

-----------------------------------------------------------------------------------------
-- Forests
-----------------------------------------------------------------------------------------

/-- What a live record enters is below it, and live. -/
private theorem Enters.below {types : Model} {context : Context} (forest : Forest types context)
    {next : Node} (enters : Enters model context.record? node next)
    (live : context.record? node.2.id = some node.2)
    : context.record? next.2.id = some next.2
      ∧ Linked context.record? node.2.id next.2.id := by
  obtain ⟨_, @⟨_, field, _, _, target, ids, id, others, _, member, _, _, _, _, followed, _, found⟩⟩ :=
    enters
  have inside : id ∈ field.followed node.2 := by
    rw [followed]
    exact List.mem_append_right _ List.mem_cons_self
  have held : id ∈ node.2.related field.key := by
    unfold Field.followed at inside
    split at inside
    · exact inside
    · exact List.mem_of_mem_take inside
  have own : member.id = id := forest.keyed found
  exact ⟨own ▸ found, field.key, node.2, live, own ▸ held⟩

/-- In a forest no record is circular.
Witness: what is entered is below, and nothing is below itself.
-/
theorem not_circular_of_forest {types : Model} {context : Context} (forest : Forest types context)
    (live : context.record? start.2.id = some start.2)
    : ¬ Circular model context.record? start := by
  rintro ⟨node, way, back⟩
  have live' : context.record? node.2.id = some node.2 := by
    clear back
    induction way with
    | refl => exact live
    | tail _ enters ih => exact (enters.below forest ih).1
  have descends {last : Node} (path : Relation.TransGen (Enters model context.record?) node last)
      : context.record? last.2.id = some last.2 ∧ Below context.record? node.2.id last.2.id := by
    induction path with
    | single enters =>
        obtain ⟨found, link⟩ := enters.below forest live'
        exact ⟨found, .single link⟩
    | tail _ enters ih =>
        obtain ⟨found, link⟩ := enters.below forest ih.1
        exact ⟨found, ih.2.tail link⟩
  exact forest.not_below_self _ (descends back).2

end Mapping

end EntityStore
