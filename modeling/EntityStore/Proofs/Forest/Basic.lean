import EntityStore.Entity.Update
import EntityStore.Proofs.Context.Overlay
import Mathlib.Logic.Relation

/-! The forest that the relations of typed records form.
Members are always given out after their owners, so ranks increase along every relation and no
record leads back to itself. Each live identifier has at most one holder, so two trees are nested or
have nothing in common. Every level of a tree leaves fewer records beyond it, so trees are finite.
-/

namespace EntityStore

/-- A relation of a live record holds an identifier. -/
def Holds (source : RecordSource) (owner : ObjectId) (key : String) (member : ObjectId) : Prop :=
  ∃ record, source owner = some record ∧ member ∈ record.related key

/-- Some relation of a live record holds an identifier. -/
def Linked (source : RecordSource) (owner member : ObjectId) : Prop :=
  ∃ key, Holds source owner key member

/-- An identifier is a root or is found along relations that start there. -/
def Reaches (source : RecordSource) : ObjectId → ObjectId → Prop :=
  Relation.ReflTransGen (Linked source)

/-- An identifier is found along at least one relation that starts at a root. -/
def Below (source : RecordSource) : ObjectId → ObjectId → Prop :=
  Relation.TransGen (Linked source)

/-- No relation of a live record holds the identifier. -/
def Unheld (source : RecordSource) (id : ObjectId) : Prop :=
  ∀ owner, ¬ Linked source owner id

/-- Sources that agree on everything a root reaches give it the same tree.
Witness: induction on the path; every record on it is one that the root reaches.
-/
theorem Reaches.congr {source other : RecordSource} {root id : ObjectId}
    (agree : ∀ x, Reaches source root x → other x = source x) (path : Reaches source root id)
    : Reaches other root id := by
  induction path with
  | refl => exact .refl
  | tail before link ih =>
      obtain ⟨key, record, found, member⟩ := link
      exact ih.tail ⟨key, record, (agree _ before).trans found, member⟩

/-- A root that reaches a live record is live. -/
theorem Reaches.root_live {source : RecordSource} {root id : ObjectId}
    (path : Reaches source root id) (live : ∃ record, source id = some record)
    : ∃ record, source root = some record := by
  rcases Relation.ReflTransGen.cases_head path with same | ⟨_, ⟨_, record, found, _⟩, _⟩
  · exact same ▸ live
  · exact ⟨record, found⟩

/-- A root without a record reaches nothing else. -/
theorem Reaches.eq_of_dead {source : RecordSource} {root id : ObjectId}
    (path : Reaches source root id) (absent : source root = none)
    : id = root := by
  rcases Relation.ReflTransGen.cases_head path with same | ⟨_, ⟨_, record, found, _⟩, _⟩
  · exact same.symm
  · rw [absent] at found
    contradiction

/-- The live records form a forest of typed records: every member is a live record of the type that
its field declares, stands in one place only, and is younger than its owner.
-/
structure Forest (types : Model) (context : Context) : Prop where
  keyed : Keyed context.record?
  bounded
    : ∀ {id record}, context.record? id = some record → id.rank < context.nextId.toNat
  declared
    : ∀ {owner record key member},
        context.record? owner = some record
        → member ∈ record.related key
        → ∃ field ∈ (types.entity record.entity).fields,
            field.key = key
            ∧ ∃ target,
                field.kind = .reference target
                ∧ ∃ found, context.record? member = some found ∧ found.entity = target
  single
    : ∀ {owner record field},
        context.record? owner = some record
        → field ∈ (types.entity record.entity).fields
        → field.shape.list = false
        → (record.related field.key).length ≤ 1
  filled
    : ∀ {owner record key},
        context.record? owner = some record → record.relations.get? key ≠ some []
  increasing
    : ∀ {owner member}, Linked context.record? owner member → owner.rank < member.rank
  sole
    : ∀ {owner owner' key key' member},
        Holds context.record? owner key member
        → Holds context.record? owner' key' member
        → owner = owner' ∧ key = key'
  nodup
    : ∀ {owner record key},
        context.record? owner = some record → (record.related key).Nodup

namespace Forest

variable {types : Model} {context : Context} (forest : Forest types context)
include forest

/-- Members are live. -/
theorem live_of_linked {owner member : ObjectId} (link : Linked context.record? owner member)
    : ∃ record, context.record? member = some record := by
  obtain ⟨key, record, found, held⟩ := link
  obtain ⟨_, _, _, _, _, record, live, _⟩ := forest.declared found held
  exact ⟨record, live⟩

theorem rank_lt_of_linked {owner member : ObjectId}
    (link : Linked context.record? owner member)
    : member.rank < context.nextId.toNat := by
  obtain ⟨record, live⟩ := forest.live_of_linked link
  exact forest.bounded live

/-- Ranks increase downwards. -/
theorem rank_le_of_reaches {root id : ObjectId} (path : Reaches context.record? root id)
    : root.rank ≤ id.rank := by
  induction path with
  | refl => exact Nat.le_refl _
  | tail _ link ih => exact Nat.le_trans ih (Nat.le_of_lt (forest.increasing link))

theorem rank_lt_of_below {root id : ObjectId} (path : Below context.record? root id)
    : root.rank < id.rank := by
  induction path with
  | single link => exact forest.increasing link
  | tail _ link ih => exact Nat.lt_trans ih (forest.increasing link)

/-- No record is reachable from itself. -/
theorem not_below_self (id : ObjectId) : ¬ Below context.record? id id :=
  fun path => Nat.lt_irrefl _ (forest.rank_lt_of_below path)

/-- Two roots of one record are nested.
Witness: upwards from a member there is one way only.
-/
theorem nested {a b id : ObjectId} (left : Reaches context.record? a id)
    (right : Reaches context.record? b id)
    : Reaches context.record? a b ∨ Reaches context.record? b a := by
  have unique : Relator.RightUnique (Function.swap (Linked context.record?)) := by
    intro member owner owner' link link'
    obtain ⟨key, held⟩ := link
    obtain ⟨key', held'⟩ := link'
    exact (forest.sole held held').1
  have ways := Relation.ReflTransGen.total_of_right_unique unique
    (Relation.reflTransGen_swap.mpr left) (Relation.reflTransGen_swap.mpr right)
  exact ways.symm.imp Relation.reflTransGen_swap.mp Relation.reflTransGen_swap.mp

/-- What is younger than the owner of a member reaches the member only if it is the member. -/
theorem eq_of_reaches_member {owner member root : ObjectId}
    (link : Linked context.record? owner member) (younger : owner.rank < root.rank)
    (path : Reaches context.record? root member)
    : root = member := by
  rcases Relation.ReflTransGen.cases_tail path with same | ⟨holder, before, last⟩
  · exact same.symm
  · obtain ⟨key, held⟩ := link
    obtain ⟨key', held'⟩ := last
    have same := (forest.sole held held').1
    subst same
    exact absurd (forest.rank_le_of_reaches before) (by omega)

/-- The trees of two members of one owner have nothing in common. -/
theorem members_apart {owner a b id : ObjectId} (first : Linked context.record? owner a)
    (second : Linked context.record? owner b) (distinct : a ≠ b)
    (left : Reaches context.record? a id) (right : Reaches context.record? b id)
    : False := by
  rcases forest.nested left right with path | path
  · exact distinct
      (forest.eq_of_reaches_member second (forest.increasing first) path)
  · exact distinct
      (forest.eq_of_reaches_member first (forest.increasing second) path).symm

/-- The tree of a root that nothing holds has nothing in common with the tree of a member of an older
owner.
-/
theorem root_apart {owner member root id : ObjectId} (unheld : Unheld context.record? root)
    (link : Linked context.record? owner member) (younger : owner.rank < root.rank)
    (left : Reaches context.record? root id) (right : Reaches context.record? member id)
    : False := by
  have distinct : root ≠ member := fun same => unheld owner (same ▸ link)
  rcases forest.nested left right with path | path
  · exact distinct (forest.eq_of_reaches_member link younger path)
  · rcases Relation.ReflTransGen.cases_tail path with same | ⟨holder, _, last⟩
    · exact distinct same
    · exact unheld holder last

/-- An owner is not reached from its members. -/
theorem not_reaches_owner {owner member : ObjectId} (link : Linked context.record? owner member)
    : ¬ Reaches context.record? member owner := by
  intro path
  have := forest.rank_le_of_reaches path
  have := forest.increasing link
  omega

/-- What is reached is live, unless it is a root that is not. -/
theorem live_of_reaches {root id : ObjectId} (path : Reaches context.record? root id)
    : id = root ∨ ∃ record, context.record? id = some record := by
  rcases Relation.ReflTransGen.cases_tail path with same | ⟨holder, _, last⟩
  · exact Or.inl same
  · exact Or.inr (forest.live_of_linked last)

/-- What a live root reaches is live. -/
theorem live_of_root {root id : ObjectId} (path : Reaches context.record? root id)
    (live : ∃ record, context.record? root = some record)
    : ∃ record, context.record? id = some record := by
  rcases forest.live_of_reaches path with same | found
  · exact same ▸ live
  · exact found

end Forest

/-- The live records from an identifier on. -/
def Context.beyond (context : Context) (id : ObjectId) : List Record :=
  context.live.filter (fun record => id.rank ≤ record.id.rank)

/-- There are fewer records beyond a member than beyond its owner. -/
theorem Forest.beyond_lt {types : Model} {context : Context} (forest : Forest types context)
    {owner member : ObjectId} (link : Linked context.record? owner member)
    : (context.beyond member).length < (context.beyond owner).length := by
  have older := forest.increasing link
  obtain ⟨key, record, found, _⟩ := link
  have split : context.beyond member
      = (context.beyond owner).filter (fun record => member.rank ≤ record.id.rank) := by
    simp only [Context.beyond, List.filter_filter]
    refine List.filter_congr (fun x _ => ?_)
    rw [← Bool.decide_and, decide_eq_decide]
    omega
  rw [split]
  refine List.length_filter_lt_length_iff_exists.mpr ⟨record, ?_, ?_⟩
  · refine List.mem_filter.mpr ⟨Context.mem_live_iff.mpr ⟨owner, found⟩, ?_⟩
    rw [forest.keyed found]
    exact decide_eq_true (Nat.le_refl _)
  · rw [forest.keyed found, decide_eq_true_eq]
    omega

end EntityStore
