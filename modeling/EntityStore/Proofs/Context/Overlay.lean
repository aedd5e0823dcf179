import EntityStore.Context.Basic

/-! What every operation of a context does to the records that a job sees.
The pending records and the committed ones are looked up through one function, and each write is
stated as the change of that function. Nothing after this module looks at the overlay itself.
-/

namespace EntityStore

namespace ObjectId

/-- The place of an identifier in the order in which identifiers are given out. -/
def rank (id : ObjectId) : Nat :=
  id.number.toNat

/-- Identifiers of one rank are one identifier. -/
theorem rank_inj {a b : ObjectId} (same : a.rank = b.rank) : a = b := by
  cases a
  cases b
  exact congrArg ObjectId.mk (UInt64.toNat_inj.mp same)

/-- Identifiers are ordered by their places. -/
theorem rank_lt_iff {a b : ObjectId} : a.rank < b.rank ↔ compare a b = .lt := by
  show a.number.toNat < b.number.toNat ↔ compare a.number b.number = .lt
  rw [← UInt64.lt_iff_toNat_lt]
  exact Std.compare_eq_lt.symm

end ObjectId

/-- Every record of a source stands under its own identifier. -/
def Keyed (source : RecordSource) : Prop :=
  ∀ {id record}, source id = some record → record.id = id

/-- The entity type of the record that stands under an identifier. -/
def Arena.entity? (arena : Arena) (id : ObjectId) : Option String :=
  (arena.get? id).map (·.entity)

theorem Arena.entity?_of_get? {arena : Arena} {id : ObjectId} {record : Record}
    (found : arena.get? id = some record)
    : arena.entity? id = some record.entity := by
  rw [entity?, found, Option.map_some]

theorem Arena.entity?_eq_some_iff {arena : Arena} {id : ObjectId} {entity : String}
    : arena.entity? id = some entity
      ↔ (id, entity) ∈ arena.entries.map (fun entry => (entry.1, entry.2.entity)) := by
  rw [entity?, Option.map_eq_some_iff, List.mem_map]
  constructor
  · rintro ⟨record, found, rfl⟩
    exact ⟨(id, record), Table.get?_eq_some_iff.mp found, rfl⟩
  · rintro ⟨⟨_, record⟩, member, same⟩
    cases same
    exact ⟨record, Table.get?_eq_some_iff.mpr member, rfl⟩

namespace Record

/-- Writing the value that stands at a key changes nothing. -/
theorem setValue_of_value? {record : Record} {key value} (same : record.value? key = value)
    : record.setValue key value = record := by
  subst same
  simp only [setValue, value?, Table.set_get?]

theorem value?_setValue (record : Record) (key k : String) (value : Option Value)
    : (record.setValue key value).value? k = if k = key then value else record.value? k :=
  Table.get?_set record.attributes key k value

theorem get?_setRelated (record : Record) (key k : String) (ids : List ObjectId)
    : (record.setRelated key ids).relations.get? k
      = if k = key then (if ids.isEmpty then none else some ids)
        else record.relations.get? k :=
  Table.get?_set record.relations key k _

theorem related_setRelated (record : Record) (key k : String) (ids : List ObjectId)
    : (record.setRelated key ids).related k = if k = key then ids else record.related k := by
  simp only [related, get?_setRelated]
  split
  · cases ids <;> rfl
  · rfl

theorem get?_detach (record : Record) (target : ObjectId) (key : String)
    : (record.detach target).relations.get? key
      = (record.relations.get? key).bind (fun ids =>
          if (ids.filter (· ≠ target)).isEmpty then none else some (ids.filter (· ≠ target))) :=
  Table.get?_filterMap _ _ _

theorem related_detach (record : Record) (target : ObjectId) (key : String)
    : (record.detach target).related key = (record.related key).filter (· ≠ target) := by
  simp only [related, get?_detach]
  cases record.relations.get? key with
  | none => rfl
  | some ids =>
      simp only [Option.bind_some, Option.getD_some]
      split
      · next empty => rw [Option.getD_none, List.isEmpty_iff.mp empty]
      · rfl

/-- A record refers to a target when one of its relations holds it. -/
theorem references_iff {record : Record} {target : ObjectId}
    : record.references target = true ↔ ∃ key, target ∈ record.related key := by
  simp only [references, List.any_eq_true, Table.mem_values_iff, List.contains_iff_mem, related]
  constructor
  · intro given
    obtain ⟨ids, ⟨key, found⟩, member⟩ := given
    exact ⟨key, by rw [found]; exact member⟩
  · intro given
    obtain ⟨key, member⟩ := given
    cases found : record.relations.get? key with
    | none => simp [found] at member
    | some ids => exact ⟨ids, ⟨key, found⟩, by simpa [found] using member⟩

end Record

namespace Context

variable {context after : Context} {id x : ObjectId}

-----------------------------------------------------------------------------------------
-- Reading
-----------------------------------------------------------------------------------------

/-- Committing pending entries in ascending order leaves the pending record wherever there is one.
Witness: induction on the entries; a later entry never has the key of an earlier one. -/
private theorem get?_foldl_set (entries : List (ObjectId × Option Record))
    (ascending : Ascending entries) (arena : Arena) (id : ObjectId)
    : (entries.foldl (fun arena entry => arena.set entry.1 entry.2) arena).get? id
      = match Entries.find? id entries with
        | some pending => pending
        | none => arena.get? id := by
  induction entries generalizing arena with
  | nil => rfl
  | cons head rest ih =>
      obtain ⟨k, v⟩ := head
      obtain ⟨above, ascending⟩ := List.pairwise_cons.mp ascending
      rw [List.foldl_cons, ih ascending]
      simp only [Entries.find?, Table.get?_set]
      by_cases same : id = k
      · subst same
        have absent : Entries.find? id rest = none := by
          refine Entries.find?_none (fun entry member same => ?_)
          have := above entry member
          rw [same, Std.ReflOrd.compare_self] at this
          contradiction
        simp [absent]
      · simp [same]

/-- The arena that committing would leave holds what the job sees. -/
theorem get?_view (context : Context) (id : ObjectId)
    : context.view.get? id = context.record? id :=
  get?_foldl_set context.pending.entries context.pending.ascending context.committed id

theorem mem_live_iff {record : Record}
    : record ∈ context.live ↔ ∃ id, context.record? id = some record := by
  simp only [live, Table.mem_values_iff, get?_view]

theorem mem_matching_iff {entity : String} {predicate : Predicate} {record : Record}
    : record ∈ context.matching entity predicate
      ↔ (∃ id, context.record? id = some record)
        ∧ record.entity = entity
        ∧ predicate.evaluate context.record? record = true := by
  rw [matching, List.mem_filter, mem_live_iff, Bool.and_eq_true, decide_eq_true_eq]

/-- The live records stand in the order in which their identifiers were given out. -/
theorem live_ascending (keyed : Keyed context.record?)
    : context.live.Pairwise (fun earlier later => earlier.id.rank < later.id.rank) := by
  unfold live Table.values
  rw [List.pairwise_map]
  refine List.Pairwise.imp_of_mem ?_ context.view.ascending
  intro a b first second before
  have found {entry : ObjectId × Record} (member : entry ∈ context.view.entries)
      : entry.2.id = entry.1 := by
    have present : context.record? entry.1 = some entry.2 := by
      rw [← get?_view]
      exact Table.get?_eq_some_iff.mpr member
    exact keyed present
  rw [found first, found second]
  exact ObjectId.rank_lt_iff.mpr before

/-- The identifiers of the live records have no repetition. -/
theorem live_ids_nodup (keyed : Keyed context.record?) : (context.live.map (·.id)).Nodup := by
  rw [List.nodup_iff_pairwise_ne, List.pairwise_map]
  refine (live_ascending keyed).imp (fun before same => ?_)
  rw [same] at before
  exact Nat.lt_irrefl _ before

theorem related_eq {record : Record} (found : context.record? id = some record) (key : String)
    : context.related id key = record.related key := by
  simp [related, found]

-----------------------------------------------------------------------------------------
-- Writing
-----------------------------------------------------------------------------------------

theorem record?_modify (context : Context) (id x : ObjectId) (f : Record → Record)
    : (context.modify id f).record? x
      = if x = id then (context.record? id).map f else context.record? x := by
  unfold modify
  split
  · next record found =>
      by_cases same : x = id
      · simp only [record?, Table.get?_insert, same, if_true]
        rw [← record?, found, Option.map_some]
      · simp [record?, Table.get?_insert, same]
  · next absent =>
      split
      · next same => rw [same, absent, Option.map_none]
      · rfl

theorem record?_setValue (context : Context) (id x : ObjectId) (key : String)
    (value : Option Value)
    : (context.setValue id key value).record? x
      = if x = id then (context.record? id).map (·.setValue key value)
        else context.record? x := by
  unfold setValue
  split
  · next record found =>
      split
      · next same =>
          split
          · next here =>
              rw [here, found, Option.map_some, Record.setValue_of_value? same]
          · rfl
      · rw [record?_modify]
  · next absent =>
      split
      · next same => rw [same, absent, Option.map_none]
      · rfl

/-- A record that is there after a value was written was there before, of the same type and with the same
relations.
-/
theorem found_of_setValue {x : ObjectId} {key : String} {value : Option Value} {record' : Record}
    (found : (context.setValue id key value).record? x = some record')
    : ∃ record,
        context.record? x = some record
        ∧ record'.id = record.id
        ∧ record'.entity = record.entity
        ∧ record'.relations = record.relations := by
  rw [record?_setValue] at found
  split at found
  · next same =>
      obtain ⟨record, present, rfl⟩ := Option.map_eq_some_iff.mp found
      exact ⟨record, same ▸ present, rfl, rfl, rfl⟩
  · exact ⟨record', found, rfl, rfl, rfl⟩

/-- Writing the value that a live record has is no write at all. -/
theorem setValue_of_value? {record : Record} {key value}
    (found : context.record? id = some record) (same : record.value? key = value)
    : context.setValue id key value = context := by
  simp [setValue, found, same]

/-- The record that replacing the members of a relation leaves: the same members in another order
are not rewritten. -/
def reset (key : String) (ids : List ObjectId) (record : Record) : Record :=
  if (record.related key).isPerm ids then record else record.setRelated key ids

theorem record?_setRelated (context : Context) (id x : ObjectId) (key : String)
    (ids : List ObjectId)
    : (context.setRelated id key ids).record? x
      = if x = id then (context.record? id).map (reset key ids) else context.record? x := by
  unfold setRelated
  cases found : context.record? id with
  | none =>
      simp only [related, found, Option.map_none]
      split <;> split
      · next same => rw [same, found]
      · rfl
      · next same => rw [record?_modify, if_pos same, found, Option.map_none]
      · next same => rw [record?_modify, if_neg same]
  | some record =>
      simp only [related_eq found, Option.map_some, reset]
      split
      · split
        · next same => rw [same, found]
        · rfl
      · rw [record?_modify, found, Option.map_some]

/-- Replacing the members of a relation by the same ones in any order is no write at all. -/
theorem setRelated_of_perm {record : Record} {key ids}
    (found : context.record? id = some record) (perm : (record.related key).Perm ids)
    : context.setRelated id key ids = context := by
  simp [setRelated, related_eq found, List.isPerm_iff.mpr perm]

/-- A record that is gone takes no members. -/
theorem setRelated_of_dead (absent : context.record? id = none) (key : String)
    (ids : List ObjectId)
    : context.setRelated id key ids = context := by
  unfold setRelated modify
  rw [absent]
  split <;> rfl

@[simp] theorem reset_entity (key : String) (ids : List ObjectId) (record : Record)
    : (reset key ids record).entity = record.entity := by
  unfold reset
  split <;> rfl

@[simp] theorem reset_id (key : String) (ids : List ObjectId) (record : Record)
    : (reset key ids record).id = record.id := by
  unfold reset
  split <;> rfl

@[simp] theorem reset_attributes (key : String) (ids : List ObjectId) (record : Record)
    : (reset key ids record).attributes = record.attributes := by
  unfold reset
  split <;> rfl

/-- A record that is there after a relation was replaced was there before, of the same type and with the
same attributes.
-/
theorem found_of_setRelated {x : ObjectId} {key : String} {ids : List ObjectId} {record' : Record}
    (found : (context.setRelated id key ids).record? x = some record')
    : ∃ record,
        context.record? x = some record
        ∧ record'.id = record.id
        ∧ record'.entity = record.entity
        ∧ record'.attributes = record.attributes := by
  rw [record?_setRelated] at found
  split at found
  · next same =>
      obtain ⟨record, present, rfl⟩ := Option.map_eq_some_iff.mp found
      exact ⟨record, same ▸ present, reset_id _ _ _, reset_entity _ _ _, reset_attributes _ _ _⟩
  · exact ⟨record', found, rfl, rfl, rfl⟩

theorem reset_related_perm (key : String) (ids : List ObjectId) (record : Record)
    : ((reset key ids record).related key).Perm ids := by
  unfold reset
  split
  · next perm => exact List.isPerm_iff.mp perm
  · rw [Record.related_setRelated, if_pos rfl]

theorem reset_related_of_ne {key k : String} (other : k ≠ key) (ids : List ObjectId)
    (record : Record)
    : (reset key ids record).related k = record.related k := by
  unfold reset
  split
  · rfl
  · rw [Record.related_setRelated, if_neg other]

/-- The context after a new record of an entity was put under the next identifier. -/
structure Inserted (context : Context) (entity : String) (id : ObjectId) (after : Context)
    : Prop where
  rank_eq : id.rank = context.nextId.toNat
  nextId_eq : after.nextId.toNat = context.nextId.toNat + 1
  committed : after.committed = context.committed
  schema : after.schema = context.schema
  records
    : ∀ x,
        after.record? x = if x = id then some (context.fresh id entity) else context.record? x

/-- Inserting gives out the next identifier, or gives up where it is the last one. -/
theorem insert_cases (context : Context) (entity : String)
    : (∃ message, context.insert entity = .error (.panic message))
      ∨ ∃ id after,
          context.insert entity = .ok (id, after) ∧ Inserted context entity id after := by
  unfold insert
  split
  · exact Or.inl ⟨_, rfl⟩
  · next room =>
      refine Or.inr ⟨_, _, rfl, rfl, ?_, rfl, rfl, fun x => ?_⟩
      · have bound := context.nextId.toNat_lt_size
        rw [UInt64.toNat_add, UInt64.toNat_one]
        exact Nat.mod_eq_of_lt (by simp only [UInt64.size] at *; omega)
      · by_cases same : x = ⟨context.nextId⟩ <;>
          simp [record?, Table.get?_insert, same]

-----------------------------------------------------------------------------------------
-- New records
-----------------------------------------------------------------------------------------

/-- Defaults are attributes: they leave the identifier, the entity and the relations alone. -/
private theorem foldl_defaults (attributes : List AttributeDescriptor) (record : Record)
    : let filled := attributes.foldl
        (fun record attributeDescriptor =>
          match attributeDescriptor.defaultValue with
          | some value => record.setValue attributeDescriptor.name (some value)
          | none => record)
        record
      filled.id = record.id ∧ filled.entity = record.entity
        ∧ filled.relations = record.relations := by
  induction attributes generalizing record with
  | nil => exact ⟨rfl, rfl, rfl⟩
  | cons descriptor rest ih =>
      rw [List.foldl_cons]
      cases descriptor.defaultValue with
      | none => exact ih record
      | some value => exact ih (record.setValue descriptor.name (some value))

/-- A new record stands under its identifier, is of its entity, and holds no members. -/
theorem fresh_spec (context : Context) (id : ObjectId) (entity : String)
    : (context.fresh id entity).id = id ∧ (context.fresh id entity).entity = entity
      ∧ (context.fresh id entity).relations = .empty := by
  unfold fresh
  split
  · exact foldl_defaults _ _
  · exact ⟨rfl, rfl, rfl⟩

theorem fresh_related (context : Context) (id : ObjectId) (entity key : String)
    : (context.fresh id entity).related key = [] := by
  simp [Record.related, (fresh_spec context id entity).2.2]

-----------------------------------------------------------------------------------------
-- Removing
-----------------------------------------------------------------------------------------

theorem record?_remove (context : Context) (id x : ObjectId)
    : (context.remove id).record? x = if x = id then none else context.record? x := by
  unfold remove
  split
  · by_cases same : x = id <;> simp [record?, Table.get?_insert, same]
  · next absent =>
      by_cases same : x = id
      · have absent : context.committed.get? id = none := by
          simpa [Table.contains] using absent
        simp [record?, Table.get?_erase, same, absent]
      · simp [record?, Table.get?_erase, same]

/-- Rewriting several records of distinct identifiers rewrites each of them once. -/
private theorem record?_foldl_modify (f : Record → Record) (holders : List Record)
    (distinct : (holders.map (·.id)).Nodup) (context : Context) (x : ObjectId)
    : (holders.foldl (fun context holder => context.modify holder.id f) context).record? x
      = if x ∈ holders.map (·.id) then (context.record? x).map f else context.record? x := by
  induction holders generalizing context with
  | nil => simp
  | cons holder rest ih =>
      obtain ⟨absent, distinct⟩ := List.nodup_cons.mp distinct
      rw [List.foldl_cons, ih distinct, record?_modify]
      by_cases same : x = holder.id
      · subst same
        simp [absent]
      · simp [same]

/-- Taking an identifier out of every relation detaches it from every record that refers to it. -/
theorem record?_detachAll (keyed : Keyed context.record?) (id x : ObjectId)
    : (context.detachAll id).record? x
      = (context.record? x).map (fun record =>
          if record.references id then record.detach id else record) := by
  have distinct : ((context.live.filter (·.references id)).map (·.id)).Nodup :=
    (live_ids_nodup keyed).sublist (List.filter_sublist.map _)
  rw [detachAll, record?_foldl_modify _ _ distinct]
  have known : x ∈ (context.live.filter (·.references id)).map (·.id)
      ↔ ∃ record, context.record? x = some record ∧ record.references id = true := by
    simp only [List.mem_map, List.mem_filter, mem_live_iff]
    constructor
    · intro given
      obtain ⟨record, ⟨⟨y, found⟩, refers⟩, rfl⟩ := given
      exact ⟨record, by rw [keyed found]; exact found, refers⟩
    · intro given
      obtain ⟨record, found, refers⟩ := given
      exact ⟨record, ⟨⟨x, found⟩, refers⟩, keyed found⟩
  cases found : context.record? x with
  | none => simp
  | some record =>
      simp only [known, found, Option.some.injEq, exists_eq_left', Option.map_some]
      split <;> rfl

-----------------------------------------------------------------------------------------
-- What writes leave alone
-----------------------------------------------------------------------------------------

/-- Two contexts have everything but their pending records in common. -/
structure SameFrame (context after : Context) : Prop where
  committed : after.committed = context.committed
  schema : after.schema = context.schema
  nextId : after.nextId = context.nextId

theorem SameFrame.refl (context : Context) : SameFrame context context :=
  ⟨rfl, rfl, rfl⟩

theorem SameFrame.trans {middle : Context} (first : SameFrame context middle)
    (second : SameFrame middle after)
    : SameFrame context after :=
  ⟨second.committed.trans first.committed, second.schema.trans first.schema,
    second.nextId.trans first.nextId⟩

theorem sameFrame_modify (context : Context) (id : ObjectId) (f : Record → Record)
    : SameFrame context (context.modify id f) := by
  unfold modify
  split <;> exact ⟨rfl, rfl, rfl⟩

theorem sameFrame_setValue (context : Context) (id : ObjectId) (key : String)
    (value : Option Value)
    : SameFrame context (context.setValue id key value) := by
  unfold setValue
  split
  · split
    · exact .refl context
    · exact sameFrame_modify _ _ _
  · exact .refl context

theorem sameFrame_setRelated (context : Context) (id : ObjectId) (key : String)
    (ids : List ObjectId)
    : SameFrame context (context.setRelated id key ids) := by
  unfold setRelated
  split
  · exact .refl context
  · exact sameFrame_modify _ _ _

theorem sameFrame_remove (context : Context) (id : ObjectId)
    : SameFrame context (context.remove id) := by
  unfold remove
  split <;> exact ⟨rfl, rfl, rfl⟩

theorem sameFrame_detachAll (context : Context) (id : ObjectId)
    : SameFrame context (context.detachAll id) := by
  unfold detachAll
  generalize context.live.filter _ = holders
  induction holders generalizing context with
  | nil => exact .refl context
  | cons holder rest ih =>
      rw [List.foldl_cons]
      exact (sameFrame_modify _ _ _).trans (ih _)

end Context

end EntityStore
