import EntityStore.Proofs.Forest.Confined

/-! Single writes keep the forest.
Attributes do not matter to it, a new record is a tree of its own, and a relation may take on members
that are younger than their owner and that nothing else holds.
-/

namespace EntityStore

variable {types : Model} {context : Context}

-----------------------------------------------------------------------------------------
-- Attributes
-----------------------------------------------------------------------------------------

/-- A record without its attributes. -/
def Record.skeleton (record : Record) : Record :=
  { record with attributes := .empty }

/-- Two contexts have records of the same skeletons. -/
def SameSkeletons (context other : Context) : Prop :=
  ∀ id, (other.record? id).map Record.skeleton = (context.record? id).map Record.skeleton

theorem SameSkeletons.found {other : Context} (same : SameSkeletons context other)
    {id : ObjectId} {record' : Record} (found : other.record? id = some record')
    : ∃ record,
        context.record? id = some record
        ∧ record'.id = record.id
        ∧ record'.entity = record.entity
        ∧ record'.relations = record.relations := by
  have equal := same id
  rw [found, Option.map_some] at equal
  obtain ⟨record, present, shape⟩ := Option.map_eq_some_iff.mp equal.symm
  simp only [Record.skeleton, Record.mk.injEq, true_and] at shape
  exact ⟨record, present, shape.1.symm, shape.2.1.symm, shape.2.2.symm⟩

theorem SameSkeletons.symm {other : Context} (same : SameSkeletons context other)
    : SameSkeletons other context :=
  fun id => (same id).symm

theorem SameSkeletons.holds {other : Context} (same : SameSkeletons context other)
    {owner key member} (held : Holds other.record? owner key member)
    : Holds context.record? owner key member := by
  obtain ⟨record', found, inside⟩ := held
  obtain ⟨record, present, _, _, relations⟩ := same.found found
  exact ⟨record, present, by simpa only [Record.related, relations] using inside⟩

/-- Only the skeletons of the records and the bound of their identifiers matter. -/
theorem Forest.congr_skeletons {other : Context} (forest : Forest types context)
    (same : SameSkeletons context other) (next : context.nextId.toNat ≤ other.nextId.toNat)
    : Forest types other := by
  have related {record record' : Record} (equal : record'.relations = record.relations)
      : record'.related = record.related :=
    funext (fun key => by simp only [Record.related, equal])
  refine { keyed := ?_, bounded := ?_, declared := ?_, single := ?_, filled := ?_,
           increasing := ?_, sole := ?_, nodup := ?_ }
  · intro id record' found
    obtain ⟨record, present, ids, _, _⟩ := same.found found
    exact ids.trans (forest.keyed present)
  · intro id record' found
    obtain ⟨record, present, _⟩ := same.found found
    exact Nat.lt_of_lt_of_le (forest.bounded present) next
  · intro owner record' key member found inside
    obtain ⟨record, present, _, entity, relations⟩ := same.found found
    rw [related relations] at inside
    obtain ⟨field, known, keys, target, kind, member', live, typed⟩ :=
      forest.declared present inside
    obtain ⟨member'', live', _, entity', _⟩ := same.symm.found live
    exact ⟨field, entity ▸ known, keys, target, kind, member'', live', entity' ▸ typed⟩
  · intro owner record' field found known toOne
    obtain ⟨record, present, _, entity, relations⟩ := same.found found
    rw [related relations]
    exact forest.single present (entity ▸ known) toOne
  · intro owner record' key found
    obtain ⟨record, present, _, _, relations⟩ := same.found found
    rw [relations]
    exact forest.filled present
  · intro owner member link
    obtain ⟨key, held⟩ := link
    exact forest.increasing ⟨key, same.holds held⟩
  · intro owner owner' key key' member held held'
    exact forest.sole (same.holds held) (same.holds held')
  · intro owner record' key found
    obtain ⟨record, present, _, _, relations⟩ := same.found found
    rw [related relations]
    exact forest.nodup present

theorem sameSkeletons_setValue (context : Context) (id : ObjectId) (key : String)
    (value : Option Value)
    : SameSkeletons context (context.setValue id key value) := by
  intro x
  rw [Context.record?_setValue]
  split
  · next same =>
      subst same
      rw [Option.map_map]
      rfl
  · rfl

/-- Writing an attribute keeps the forest. -/
theorem Forest.setValue (forest : Forest types context) (id : ObjectId) (key : String)
    (value : Option Value)
    : Forest types (context.setValue id key value) :=
  forest.congr_skeletons (sameSkeletons_setValue context id key value)
    (Nat.le_of_eq (congrArg _ (Context.sameFrame_setValue context id key value).nextId.symm))

/-- Writing an attribute touches its record only, and a value that the record's type stores at the
key leaves a complete record complete.
-/
theorem Confined.setValue {id : ObjectId} {key : String} {value : Option Value}
    (encodes
      : ∀ record,
          context.record? id = some record
          → ∀ field ∈ (types.entity record.entity).fields,
              field.key = key → field.skipped = false → field.Encodes value)
    : Confined types (· = id) context (context.setValue id key value) := by
  have frame := Context.sameFrame_setValue context id key value
  refine { committed := frame.committed
           schema := frame.schema
           nextId_le := Nat.le_of_eq (congrArg _ frame.nextId.symm)
           frame := ?_
           survivor := ?_
           inherits := ?_
           incomplete := ?_ }
  · intro x _ other
    rw [Context.record?_setValue, if_neg other]
  · intro x record' _ found
    obtain ⟨record, present, _, entity, _⟩ :=
      (sameSkeletons_setValue context id key value).found found
    exact ⟨record, present, entity⟩
  · intro owner k member _ held
    exact (sameSkeletons_setValue context id key value).holds held
  · intro x incomplete
    obtain ⟨record', found, lacking⟩ := incomplete
    rw [Context.record?_setValue] at found
    split at found
    · next same =>
        obtain ⟨record, present, rfl⟩ := Option.map_eq_some_iff.mp found
        refine ⟨record, same ▸ present, fun complete => lacking ?_⟩
        intro field known stored
        rw [Record.value?_setValue]
        split
        · next here => exact encodes record present field known here stored
        · exact complete field known stored
    · exact ⟨record', found, lacking⟩

-----------------------------------------------------------------------------------------
-- New records
-----------------------------------------------------------------------------------------

namespace Context.Inserted

variable {entity : String} {id : ObjectId} {after : Context}

theorem found (inserted : Inserted context entity id after)
    : after.record? id = some (context.fresh id entity) := by
  rw [inserted.records, if_pos rfl]

/-- A record that is there after an insertion is the new one or was there before. -/
theorem found_cases (inserted : Inserted context entity id after) {x : ObjectId} {record : Record}
    (found : after.record? x = some record)
    : (x = id ∧ record = context.fresh id entity) ∨ context.record? x = some record := by
  rw [inserted.records] at found
  split at found
  · next same => exact Or.inl ⟨same, (Option.some.inj found).symm⟩
  · exact Or.inr found

theorem older (inserted : Inserted context entity id after) {x : ObjectId}
    (old : x.rank < context.nextId.toNat)
    : after.record? x = context.record? x := by
  rw [inserted.records, if_neg]
  intro same
  rw [same, inserted.rank_eq] at old
  exact Nat.lt_irrefl _ old

/-- A new record holds nothing, so all that is held was held before. -/
theorem holds (inserted : Inserted context entity id after) {owner key member}
    (held : Holds after.record? owner key member)
    : Holds context.record? owner key member := by
  obtain ⟨record, present, inside⟩ := held
  rcases inserted.found_cases present with ⟨rfl, rfl⟩ | present
  · simp [Context.fresh_related] at inside
  · exact ⟨record, present, inside⟩

/-- Nothing holds a new record. -/
theorem unheld (inserted : Inserted context entity id after) (forest : Forest types context)
    : Unheld after.record? id := by
  intro owner link
  obtain ⟨key, held⟩ := link
  have := forest.rank_lt_of_linked ⟨key, inserted.holds held⟩
  rw [inserted.rank_eq] at this
  exact Nat.lt_irrefl _ this

/-- A new record reaches nothing but itself. -/
theorem reaches (inserted : Inserted context entity id after) {x : ObjectId}
    (path : Reaches after.record? id x)
    : x = id := by
  rcases Relation.ReflTransGen.cases_head path with same | ⟨member, ⟨key, record, found, held⟩, _⟩
  · exact same.symm
  · rw [inserted.found, Option.some.injEq] at found
    subst found
    simp [Context.fresh_related] at held

end Context.Inserted

/-- A new record keeps the forest. -/
theorem Forest.insert {entity : String} {id : ObjectId} {after : Context}
    (forest : Forest types context) (inserted : context.Inserted entity id after)
    : Forest types after := by
  have fresh := Context.fresh_spec context id entity
  refine { keyed := ?_, bounded := ?_, declared := ?_, single := ?_, filled := ?_,
           increasing := ?_, sole := ?_, nodup := ?_ }
  · intro x record found
    rcases inserted.found_cases found with ⟨rfl, rfl⟩ | present
    · exact fresh.1
    · exact forest.keyed present
  · intro x record found
    rw [inserted.nextId_eq]
    rcases inserted.found_cases found with ⟨rfl, rfl⟩ | present
    · rw [inserted.rank_eq]
      exact Nat.lt_succ_self _
    · exact Nat.lt_succ_of_lt (forest.bounded present)
  · intro owner record key member found inside
    rcases inserted.found_cases found with ⟨rfl, rfl⟩ | present
    · simp [Context.fresh_related] at inside
    · obtain ⟨field, known, keys, target, kind, record', live, typed⟩ :=
        forest.declared present inside
      exact ⟨field, known, keys, target, kind, record',
        (inserted.older (forest.bounded live)).trans live, typed⟩
  · intro owner record field found known toOne
    rcases inserted.found_cases found with ⟨rfl, rfl⟩ | present
    · simp [Context.fresh_related]
    · exact forest.single present known toOne
  · intro owner record key found
    rcases inserted.found_cases found with ⟨rfl, rfl⟩ | present
    · simp [fresh.2.2]
    · exact forest.filled present
  · intro owner member link
    obtain ⟨key, held⟩ := link
    exact forest.increasing ⟨key, inserted.holds held⟩
  · intro owner owner' key key' member held held'
    exact forest.sole (inserted.holds held) (inserted.holds held')
  · intro owner record key found
    rcases inserted.found_cases found with ⟨rfl, rfl⟩ | present
    · simp [Context.fresh_related]
    · exact forest.nodup present

-----------------------------------------------------------------------------------------
-- Relations
-----------------------------------------------------------------------------------------

/-- Replacing the members of a relation makes them the members, and nothing else. -/
theorem holds_setRelated {owner : ObjectId} {record : Record} {key : String}
    {ids : List ObjectId} (found : context.record? owner = some record) {o k member}
    : Holds (context.setRelated owner key ids).record? o k member
      ↔ if o = owner ∧ k = key then member ∈ ids else Holds context.record? o k member := by
  simp only [Holds, Context.record?_setRelated, found, Option.map_some]
  by_cases here : o = owner
  · subst here
    simp only [if_true, Option.some.injEq, exists_eq_left', true_and, found]
    by_cases same : k = key
    · subst same
      simp only [if_true]
      exact (Context.reset_related_perm k ids record).mem_iff
    · simp only [same, if_false, Context.reset_related_of_ne same]
  · simp only [here, if_false, false_and]

/-- A record lacks a value after a relation was replaced only where it did before. -/
theorem incomplete_of_setRelated {id x : ObjectId} {key : String} {ids : List ObjectId}
    (incomplete : Incomplete types (context.setRelated id key ids) x)
    : Incomplete types context x := by
  obtain ⟨record', found, lacking⟩ := incomplete
  obtain ⟨record, present, _, typed, same⟩ := Context.found_of_setRelated found
  refine ⟨record, present, fun complete => lacking (fun field listed kept => ?_)⟩
  rw [typed] at listed
  simpa only [Record.value?, same] using complete field listed kept

section SetRelated

variable {owner : ObjectId} {record : Record} {field : Field} {target : String}
  {ids : List ObjectId} (forest : Forest types context)
  (found : context.record? owner = some record)

/-- A record that was there before a relation was replaced is still there, of the same type. -/
private theorem alive_setRelated {x : ObjectId} {member : Record} (key : String)
    (live : context.record? x = some member)
    : ∃ member',
        (context.setRelated owner key ids).record? x = some member'
        ∧ member'.entity = member.entity := by
  rw [Context.record?_setRelated]
  split
  · next same => exact ⟨_, by rw [← same, live]; rfl, Context.reset_entity _ _ _⟩
  · exact ⟨member, live, rfl⟩

include found

/-- The record of the owner is the one with the new members, and the others are as they were. -/
private theorem setRelated_cases {x : ObjectId} {key : String} {record' : Record}
    (present : (context.setRelated owner key ids).record? x = some record')
    : (x = owner ∧ record' = Context.reset key ids record) ∨ context.record? x = some record' := by
  rw [Context.record?_setRelated] at present
  split at present
  · next same =>
      rw [found, Option.map_some] at present
      exact Or.inl ⟨same, (Option.some.inj present).symm⟩
  · exact Or.inr present

include forest

/-- What a relation holds is of the declared type, as the new members are. -/
private theorem declared_setRelated (known : field ∈ (types.entity record.entity).fields)
    (kind : field.kind = .reference target)
    (typed : ∀ id ∈ ids, ∃ member, context.record? id = some member ∧ member.entity = target)
    {o member : ObjectId} {record' : Record} {k : String}
    (present : (context.setRelated owner field.key ids).record? o = some record')
    (inside : member ∈ record'.related k)
    : ∃ f ∈ (types.entity record'.entity).fields,
        f.key = k
        ∧ ∃ t,
            f.kind = .reference t
            ∧ ∃ m,
                (context.setRelated owner field.key ids).record? member = some m ∧ m.entity = t := by
  have old (r : Record) (p : context.record? o = some r) (i : member ∈ r.related k)
      : ∃ f ∈ (types.entity r.entity).fields,
          f.key = k
          ∧ ∃ t,
              f.kind = .reference t
              ∧ ∃ m,
                  (context.setRelated owner field.key ids).record? member = some m
                  ∧ m.entity = t := by
    obtain ⟨f, known', keys, t, kind', m, live, typed'⟩ := forest.declared p i
    obtain ⟨m', live', same⟩ := alive_setRelated field.key live
    exact ⟨f, known', keys, t, kind', m', live', same.trans typed'⟩
  rcases setRelated_cases found present with ⟨rfl, rfl⟩ | present
  · rw [Context.reset_entity]
    by_cases same : k = field.key
    · subst same
      rw [(Context.reset_related_perm field.key ids record).mem_iff] at inside
      obtain ⟨m, live, typed'⟩ := typed member inside
      obtain ⟨m', live', same⟩ := alive_setRelated field.key live
      exact ⟨field, known, rfl, target, kind, m', live', same.trans typed'⟩
    · rw [Context.reset_related_of_ne same] at inside
      exact old record found inside
  · exact old record' present inside

/-- Where nothing else holds the new members, no record has two holders. -/
private theorem sole_setRelated
    (free : ∀ id ∈ ids, ∀ o k, Holds context.record? o k id → o = owner ∧ k = field.key)
    {o o' member : ObjectId} {k k' : String}
    (held : Holds (context.setRelated owner field.key ids).record? o k member)
    (held' : Holds (context.setRelated owner field.key ids).record? o' k' member)
    : o = o' ∧ k = k' := by
  rw [holds_setRelated found] at held held'
  split at held <;> split at held'
  · next here here' => exact ⟨here.1.trans here'.1.symm, here.2.trans here'.2.symm⟩
  · next here _ =>
      obtain ⟨rfl, rfl⟩ := free member held o' k' held'
      exact here
  · next _ here' =>
      obtain ⟨rfl, rfl⟩ := free member held' o k held
      exact ⟨here'.1.symm, here'.2.symm⟩
  · exact forest.sole held held'

/-- A relation may take on members of the declared type that are younger than their owner and that
no other relation holds.
-/
theorem Forest.setRelated (known : field ∈ (types.entity record.entity).fields)
    (kind : field.kind = .reference target)
    (typed : ∀ id ∈ ids, ∃ member, context.record? id = some member ∧ member.entity = target)
    (single
      : ∀ other ∈ (types.entity record.entity).fields,
          other.key = field.key → other.shape.list = false → ids.length ≤ 1)
    (younger : ∀ id ∈ ids, owner.rank < id.rank) (nodup : ids.Nodup)
    (free : ∀ id ∈ ids, ∀ o k, Holds context.record? o k id → o = owner ∧ k = field.key)
    : Forest types (context.setRelated owner field.key ids) := by
  refine { keyed := ?_, bounded := ?_, declared := declared_setRelated forest found known kind typed,
           single := ?_, filled := ?_, increasing := ?_, sole := sole_setRelated forest found free,
           nodup := ?_ }
  · intro x record' present
    rcases setRelated_cases found present with ⟨rfl, rfl⟩ | present
    · exact (Context.reset_id _ _ _).trans (forest.keyed found)
    · exact forest.keyed present
  · intro x record' present
    rw [(Context.sameFrame_setRelated context owner field.key ids).nextId]
    rcases setRelated_cases found present with ⟨rfl, rfl⟩ | present
    · exact forest.bounded found
    · exact forest.bounded present
  · intro o record' f present known' toOne
    rcases setRelated_cases found present with ⟨rfl, rfl⟩ | present
    · rw [Context.reset_entity] at known'
      by_cases same : f.key = field.key
      · rw [same, (Context.reset_related_perm field.key ids record).length_eq]
        exact single f known' same toOne
      · rw [Context.reset_related_of_ne same]
        exact forest.single found known' toOne
    · exact forest.single present known' toOne
  · intro o record' k present
    rcases setRelated_cases found present with ⟨rfl, rfl⟩ | present
    · unfold Context.reset
      split
      · exact forest.filled found
      · rw [Record.get?_setRelated]
        split
        · cases ids <;> simp
        · exact forest.filled found
    · exact forest.filled present
  · intro o member link
    obtain ⟨k, held⟩ := link
    rw [holds_setRelated found] at held
    split at held
    · next here => exact here.1 ▸ younger member held
    · exact forest.increasing ⟨k, held⟩
  · intro o record' k present
    rcases setRelated_cases found present with ⟨rfl, rfl⟩ | present
    · by_cases same : k = field.key
      · subst same
        exact (Context.reset_related_perm field.key ids record).nodup_iff.mpr nodup
      · rw [Context.reset_related_of_ne same]
        exact forest.nodup found
    · exact forest.nodup present

end SetRelated

end EntityStore
