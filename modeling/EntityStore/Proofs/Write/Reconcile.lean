import EntityStore.Proofs.Write.Settle

/-! Bringing a relation to hold given objects.
The settled identifiers become the members of the relation, and the members that are left over lose
their only holder. Deleting them afterwards touches what they reached, and nothing of what was settled.
-/

namespace EntityStore

variable {types model : Model} {before middle after : Context} {entity : String} {id : ObjectId}
  {field : Field}

-----------------------------------------------------------------------------------------
-- Fields
-----------------------------------------------------------------------------------------

namespace Object

/-- Members that are present fit where any members do. -/
theorem membersFit_present {shape : Shape} {present : Bool} {count : Nat}
    (fit : membersFit shape present count = true)
    : membersFit shape true count = true := by
  revert fit
  unfold membersFit
  split <;> simp +contextual

end Object

/-- What writing a field of an identifier may touch: the identifier and the trees of the members that
the relation of the field holds.
-/
def FieldTouched (source : RecordSource) (id : ObjectId) (key : String) (x : ObjectId) : Prop :=
  x = id ∨ ∃ member, Holds source id key member ∧ Reaches source member x

/-- What a field touches is in the tree of its record. -/
theorem FieldTouched.reaches {source : RecordSource} {key : String} {x : ObjectId}
    (touched : FieldTouched source id key x)
    : Reaches source id x := by
  rcases touched with rfl | ⟨member, held, path⟩
  · exact .refl
  · exact path.head ⟨key, held⟩

/-- The context after the content of one field was written to an identifier. -/
structure FieldWritten (types model : Model) (id : ObjectId) (field : Field) (content : Content)
    (before after : Context)
    : Prop where
  forest : Forest types after
  confined : Confined types (FieldTouched before.record? id field.key) before after
  result
    : ∀ {record},
        before.record? id = some record
        → ∃ record' read,
            after.record? id = some record'
            ∧ record'.entity = record.entity
            ∧ (∀ key, key ≠ field.key → record'.value? key = record.value? key)
            ∧ (∀ key, key ≠ field.key → record'.related key = record.related key)
            ∧ Object.FieldReadsBack model field content read
            ∧ Object.FieldStored model after.record? record' field read

-----------------------------------------------------------------------------------------
-- Attaching
-----------------------------------------------------------------------------------------

/-- The context after settled identifiers became the members of a relation, when the members that are
left over are still there.
-/
structure Attached (types model : Model) (target : String) (id : ObjectId) (key : String)
    (record : Record) (objects : List Object) (left : List Member) (ids : List ObjectId)
    (before after : Context)
    : Prop where
  forest : Forest types after
  confined : Confined types (FieldTouched before.record? id key) before after
  found : after.record? id = some (Context.reset key ids record)
  result
    : ∃ reads,
        Object.AllReadBack model target objects reads
        ∧ Object.AllStored model after.record? target reads ids
  free : ∀ member ∈ left, Unheld after.record? member.id
  linked : ∀ x ∈ ids, Linked after.record? id x
  held : ∀ member ∈ left, Holds before.record? id key member.id

section Attach

variable {target : String} {record : Record} {objects : List Object} {pool left : List Member}
  {ids : List ObjectId} {present : Bool}
  (settled : Settled types model target pool objects before left ids middle)
  (start : Writable types entity id before) (found : before.record? id = some record)
  (members : pool.map (·.id) = record.related field.key)
include settled start found members

omit settled start in
/-- The pool is what the relation holds. -/
theorem pool_held {member : Member} (inside : member ∈ pool)
    : Holds before.record? id field.key member.id :=
  ⟨record, found, members ▸ List.mem_map_of_mem inside⟩

/-- Settling leaves the owner as it is. -/
theorem settled_found : middle.record? id = some record := by
  refine (settled.confined.frame start.given ?_).trans found
  intro touches
  obtain ⟨member, inside, _, path⟩ := touches
  exact start.forest.not_reaches_owner
    ⟨_, pool_held found members inside⟩ path

/-- Settled identifiers are younger than the owner. -/
theorem settled_younger : ∀ x ∈ ids, id.rank < x.rank := by
  intro x settledToo
  rcases settled.origin x settledToo with ⟨member, inside, rfl, _⟩ | ⟨unborn, _⟩
  · exact start.forest.increasing ⟨_, pool_held found members inside⟩
  · exact Nat.lt_of_lt_of_le start.given unborn

/-- Nothing but the relation holds a settled identifier. -/
theorem settled_free
    : ∀ x ∈ ids, ∀ o k, Holds middle.record? o k x → o = id ∧ k = field.key := by
  intro x settledToo o k held
  rcases settled.origin x settledToo with ⟨member, inside, rfl, _⟩ | ⟨_, unheld⟩
  · have before := pool_held found members inside
    have known := start.forest.rank_lt_of_linked ⟨_, before⟩
    exact start.forest.sole (settled.confined.inherits known held) before
  · exact absurd ⟨k, held⟩ (unheld o)

/-- What is left over was not settled. -/
theorem left_not_settled {member : Member} (inside : member ∈ left) : member.id ∉ ids := by
  intro settledToo
  rcases settled.origin member.id settledToo with ⟨_, _, _, out⟩ | ⟨unborn, _⟩
  · exact out (List.mem_map_of_mem inside)
  · have held := pool_held found members (settled.sub.subset inside)
    have := start.forest.rank_lt_of_linked ⟨_, held⟩
    omega

/-- Attaching the settled identifiers keeps the forest: they are of the declared type, younger than
their owner, and held by nothing else.
-/
private theorem attach_forest (lawful : model.Lawful types) (known : model.Knows entity)
    (inside : field ∈ (model.entity entity).fields) (kind : field.kind = .reference target)
    (fit : Object.membersFit field.shape present objects.length = true)
    : Forest types (middle.setRelated id field.key ids) := by
  obtain ⟨reads, backs, storeds⟩ := settled.result
  have listed : (types.entity record.entity).fields = (model.entity entity).fields := by
    rw [start.typed found, lawful.entity_eq known]
  have count : ids.length = objects.length :=
    (Object.allStored_iff.mp storeds).length_eq.symm.trans
      (Object.allReadBack_iff.mp backs).length_eq.symm
  refine settled.forest.setRelated (settled_found settled start found members) (listed ▸ inside)
    kind storeds.live ?_ (settled_younger settled start found members) settled.distinct
    (settled_free settled start found members)
  intro other known' same single
  rw [listed] at known'
  obtain rfl := lawful.key_inj known known' inside same
  rw [count]
  simp only [Object.membersFit, single, Bool.false_eq_true, if_false, Bool.and_eq_true] at fit
  have few := fit.2
  split at few <;> simp only [decide_eq_true_eq] at few <;> omega

/-- Attaching touches the owner and what settling has touched. -/
theorem attach_confined
    : Confined types (FieldTouched before.record? id field.key) before
        (middle.setRelated id field.key ids) := by
  have found' := settled_found settled start found members
  have frame := Context.sameFrame_setRelated middle id field.key ids
  have records (x : ObjectId) := Context.record?_setRelated middle id x field.key ids
  have confined := settled.confined
  refine { committed := frame.committed.trans confined.committed
           schema := frame.schema.trans confined.schema
           nextId_le := by rw [frame.nextId]; exact confined.nextId_le
           frame := ?_
           survivor := ?_
           inherits := ?_
           incomplete := fun incomplete =>
             confined.incomplete (incomplete_of_setRelated incomplete) }
  · intro x old untouched
    rw [records, if_neg (fun same => untouched (Or.inl same)), confined.frame old]
    intro touches
    obtain ⟨member, inside, _, path⟩ := touches
    exact untouched (Or.inr ⟨member.id, pool_held found members inside, path⟩)
  · intro x record' old present
    obtain ⟨middle', present, _, typed, _⟩ := Context.found_of_setRelated present
    obtain ⟨record, found, same⟩ := confined.survivor old present
    exact ⟨record, found, typed.trans same⟩
  · intro owner key member old held
    rw [holds_setRelated found'] at held
    split at held
    · next here =>
        obtain ⟨rfl, rfl⟩ := here
        rcases settled.origin member held with ⟨taken, inside, rfl, _⟩ | ⟨unborn, _⟩
        · exact pool_held found members inside
        · omega
    · exact confined.inherits old held

/-- The settled identifiers become the members, and what is left over loses its only holder. -/
theorem Settled.attach (lawful : model.Lawful types) (known : model.Knows entity)
    (inside : field ∈ (model.entity entity).fields) (kind : field.kind = .reference target)
    (fit : Object.membersFit field.shape present objects.length = true)
    : Attached types model target id field.key record objects left ids before
        (middle.setRelated id field.key ids) := by
  have found' := settled_found settled start found members
  have younger := settled_younger settled start found members
  have records (x : ObjectId) := Context.record?_setRelated middle id x field.key ids
  obtain ⟨reads, backs, storeds⟩ := settled.result
  have held (member : Member) (inside : member ∈ left)
      : Holds before.record? id field.key member.id :=
    pool_held found members (settled.sub.subset inside)
  refine { forest := attach_forest settled start found members lawful known inside kind fit
           confined := attach_confined settled start found members
           found := by rw [records, if_pos rfl, found', Option.map_some]
           result := ⟨reads, backs, ?_⟩
           free := ?_
           linked := fun x inside => ⟨field.key, (holds_setRelated found').mpr (by simpa using inside)⟩
           held }
  · refine storeds.congr _ (fun x inside y path => ?_)
    rw [records, if_neg]
    intro same
    obtain rfl := same
    have := settled.forest.rank_le_of_reaches path
    have := younger x inside
    omega
  · intro member inside owner link
    obtain ⟨key, still⟩ := link
    rw [holds_setRelated found'] at still
    split at still
    · exact left_not_settled settled start found members inside still
    · next elsewhere =>
        have known := start.forest.rank_lt_of_linked ⟨_, held member inside⟩
        exact elsewhere
          (start.forest.sole (settled.confined.inherits known still) (held member inside))

end Attach

-----------------------------------------------------------------------------------------
-- Deleting what is left over
-----------------------------------------------------------------------------------------

section Prune

variable {target : String} {record : Record} {objects : List Object} {left : List Member}
  {ids : List ObjectId} {present : Bool}
  (attached
    : Attached types model target id field.key record objects left ids before middle)
  (start : Writable types entity id before) (found : before.record? id = some record)
  {doomed : List ObjectId} (part : doomed ⊆ left.map (·.id))
include attached part

/-- Deleting what nothing holds dooms its tree only. -/
private theorem doomed_reaches {x : ObjectId}
    (dooms : ∃ other ∈ doomed, Doomed middle.record? other x)
    : ∃ member ∈ left, Reaches middle.record? member.id x := by
  obtain ⟨other, listed, dooms⟩ := dooms
  obtain ⟨member, inside, rfl⟩ := List.mem_map.mp (part listed)
  rcases dooms with path | link
  · exact ⟨member, inside, path⟩
  · exact absurd link (attached.free member inside x)

include start

/-- The trees of settled identifiers have nothing in common with what is doomed. -/
private theorem settled_not_doomed {y x : ObjectId} (settledToo : y ∈ ids)
    (path : Reaches middle.record? y x)
    : ¬ ∃ other ∈ doomed, Doomed middle.record? other x := by
  intro dooms
  obtain ⟨member, inside, path'⟩ := doomed_reaches attached part dooms
  have older := start.forest.increasing ⟨_, attached.held member inside⟩
  exact attached.forest.root_apart (attached.free member inside) (attached.linked y settledToo)
    older path' path

/-- The owner is not doomed. -/
private theorem owner_not_doomed : ¬ ∃ other ∈ doomed, Doomed middle.record? other id := by
  intro dooms
  obtain ⟨member, inside, path⟩ := doomed_reaches attached part dooms
  have older := start.forest.increasing ⟨_, attached.held member inside⟩
  have := attached.forest.rank_le_of_reaches path
  omega

include found

/-- Deleting members that are left over leaves the content of the field written. -/
theorem Attached.prune (kept : field.skipped = false) (kind : field.kind = .reference target)
    (fit : Object.membersFit field.shape present objects.length = true)
    : FieldWritten types model id field (.members present objects) before
        (doomed.foldl Context.delete middle) := by
  have pruned := pruned_foldl_delete doomed middle attached.forest
  obtain ⟨reads, backs, storeds⟩ := attached.result
  have later : Object.AllStored model (doomed.foldl Context.delete middle).record? target reads ids :=
    storeds.confined attached.forest pruned.confined
      (fun y inside x path => settled_not_doomed attached start part inside path)
  have given : id.rank < middle.nextId.toNat :=
    Nat.lt_of_lt_of_le start.given attached.confined.nextId_le
  obtain ⟨members, members_stored, perm⟩ := List.perm_comp_forall₂
    (Context.reset_related_perm field.key ids record) (Object.allStored_iff.mp later).flip
  refine { forest := pruned.forest, confined := ?_, result := ?_ }
  · refine attached.confined.trans pruned.confined (fun x old dooms => ?_)
    obtain ⟨member, inside, path⟩ := doomed_reaches attached part dooms
    exact Or.inr ⟨member.id, attached.held member inside,
      attached.confined.reaches start.forest old path⟩
  · intro record' found'
    obtain rfl : record = record' := Option.some.inj (found.symm.trans found')
    refine ⟨Context.reset field.key ids record, .members true members, ?_,
      Context.reset_entity _ _ _, ?_, ?_, ?_, ?_⟩
    · exact (pruned.confined.frame given (owner_not_doomed attached start part)).trans attached.found
    · intro key other
      simp only [Record.value?, Context.reset_attributes]
    · intro key other
      exact Context.reset_related_of_ne other ids record
    · simp only [Object.FieldReadsBack, kept, Bool.false_eq_true, if_false,
        Object.ContentReadsBack]
      exact ⟨target, reads, members, kind, backs, perm.symm, rfl⟩
    · simp only [Object.FieldStored, kept, Bool.false_eq_true, if_false, Object.ContentStored]
      refine ⟨target, kind, trivial, ?_, Object.allStored_iff.mpr members_stored.flip⟩
      have count : members.length = objects.length :=
        perm.length_eq.trans (Object.allReadBack_iff.mp backs).length_eq.symm
      rw [count]
      exact Object.membersFit_present fit

end Prune

-----------------------------------------------------------------------------------------
-- Reconciling
-----------------------------------------------------------------------------------------

/-- The identifiers of the members that are deleted: of all that are left over, unless they are to be kept.
-/
def Member.discarded (deleteOld : Bool) (left : List Member) : List ObjectId :=
  if deleteOld then left.map (·.id) else []

theorem Member.discarded_subset (deleteOld : Bool) (left : List Member)
    : discarded deleteOld left ⊆ left.map (·.id) := by
  cases deleteOld with
  | true => exact List.Subset.refl _
  | false => exact List.nil_subset _

/-- Reconciling leaves everything as it is where the members already are the objects, and else replaces
them with what was settled.
-/
theorem Object.reconcile_rule {same : Object → Object → Bool} {target : String} {key : String}
    {objects : List Object} {members : List Member} {unordered deleteOld : Bool}
    {settle : List Member → Job (List Member × List ObjectId)} {post : Context → Prop}
    (answers : Member.ofIds model target before (before.related id key) = .ok members)
    (unchanged : Member.unchanged same unordered members objects = true → post before)
    (settles
      : (settle members).Ensures before
          (fun settled middle =>
            post
              ((Member.discarded deleteOld settled.1).foldl Context.delete
                (middle.setRelated id key settled.2))))
    : (reconcile same model target id key objects unordered deleteOld settle).Ensures before
        (fun _ after => post after) := by
  unfold reconcile
  refine Job.Ensures.get_bind (Job.Ensures.lift_bind answers ?_)
  split
  · next same => exact .pure (unchanged same)
  · refine settles.bind (fun settled middle holds => .write_bind ?_)
    cases deleteOld with
    | true =>
        refine .write ?_
        rw [← List.foldl_map]
        exact holds
    | false => exact .pure holds

/-- Where nothing is written and the relation already holds the objects, the field is written. -/
theorem FieldWritten.of_unchanged {target : String} {objects : List Object} {members : List Member}
    {unordered present : Bool} (lawful : model.Lawful types) (known : model.Knows target)
    (plain : (model.entity target).Plain) (start : Writable types entity id before)
    (kept : field.skipped = false) (kind : field.kind = .reference target)
    (fit : Object.membersFit field.shape present objects.length = true)
    (faithful : ∀ member ∈ members, member.Faithful model before.record? target)
    (listed : members.map (·.id) = before.related id field.key)
    (same : Member.unchanged Object.equals unordered members objects = true)
    : FieldWritten types model id field (.members present objects) before before := by
  refine { forest := start.forest, confined := .refl _ _, result := ?_ }
  intro record found
  obtain ⟨arranged, perm, equal⟩ := Member.unchanged_arranged same
  have backs : Object.AllReadBack model target objects (arranged.map Member.object) := by
    rw [Object.allReadBack_iff, List.forall₂_map_right_iff]
    refine (List.forall₂_iff_zip.mpr ⟨equal.length_eq, fun {object member} inside => ?_⟩)
    have claims := List.forall₂_zip equal inside
    have mine := perm.mem_iff.mp (List.of_mem_zip inside).2
    exact (faithful member mine).readsBack lawful known plain claims
  have count : (members.map Member.object).length = objects.length := by
    rw [List.length_map, ← perm.length_eq, equal.length_eq]
  refine ⟨record, .members true (members.map Member.object), found, rfl, fun _ _ => rfl,
    fun _ _ => rfl, ?_, ?_⟩
  · simp only [Object.FieldReadsBack, kept, Bool.false_eq_true, if_false, Object.ContentReadsBack]
    exact ⟨target, _, _, kind, backs, perm.map _, rfl⟩
  · simp only [Object.FieldStored, kept, Bool.false_eq_true, if_false, Object.ContentStored]
    refine ⟨target, kind, trivial, ?_, ?_⟩
    · rw [count]
      exact Object.membersFit_present fit
    · rw [← Context.related_eq found, ← listed]
      exact Member.allStored_of_faithful members faithful

/-- The members of a writable identifier are stored objects of the type that their field declares. -/
theorem Writable.members_stored (lawful : model.Lawful types) (known : model.Knows entity)
    (start : Writable types entity id before) (inside : field ∈ (model.entity entity).fields)
    {target : String} (kind : field.kind = .reference target)
    : ∀ member ∈ before.related id field.key,
        ∃ object, Object.Stored model before.record? target object member := by
  intro member held
  cases found : before.record? id with
  | none => simp [Context.related, found] at held
  | some record =>
      rw [Context.related_eq found] at held
      have link : Linked before.record? id member := ⟨field.key, record, found, held⟩
      obtain ⟨other, listed, same, target', kind', record', found', typed⟩ :=
        start.forest.declared found held
      rw [start.typed found, lawful.entity_eq known] at listed
      obtain rfl := lawful.key_inj known listed inside same
      rw [kind] at kind'
      cases kind'
      obtain ⟨_, known', plain⟩ := lawful.reference known inside kind
      exact start.forest.exists_stored lawful known' plain found' typed
        (start.tidy member (.single link)) (start.tidy.member link)

/-- The faithful members of a relation of a writable identifier form a pool. -/
theorem Writable.pool {target : String} {members : List Member}
    (start : Writable types entity id before)
    (faithful : ∀ member ∈ members, member.Faithful model before.record? target)
    (listed : members.map (·.id) = before.related id field.key)
    : Pool types model target id before members := by
  have linked (member : Member) (inside : member ∈ members)
      : Linked before.record? id member.id := by
    have held : member.id ∈ before.related id field.key := by
      rw [← listed]
      exact List.mem_map_of_mem inside
    cases found : before.record? id with
    | none => simp [Context.related, found] at held
    | some record =>
        rw [Context.related_eq found] at held
        exact ⟨field.key, record, found, held⟩
  refine { forest := start.forest, given := start.given, distinct := ?_, linked, faithful,
           tidy := fun member inside => start.tidy.member (linked member inside) }
  rw [listed]
  cases found : before.record? id with
  | none => simp [Context.related, found]
  | some record =>
      rw [Context.related_eq found]
      exact start.forest.nodup found

/-- Where the record is gone, settled objects are left as they are and hold on to nothing. -/
theorem FieldWritten.of_dead {target : String} {objects : List Object} {left : List Member}
    {ids : List ObjectId} {content : Content} (absent : before.record? id = none)
    (settled : Settled types model target [] objects before left ids middle)
    : FieldWritten types model id field content before middle :=
  { forest := settled.forest
    confined := settled.confined.mono (fun _ _ ⟨_, inside, _⟩ => absurd inside List.not_mem_nil)
    result := fun found => by
      rw [absent] at found
      contradiction }

/-- Objects that can be written are brought into a relation, or the job gives up. -/
theorem reconcile_ensures (lawful : model.Lawful types) (known : model.Knows entity)
    (start : Writable types entity id before) (inside : field ∈ (model.entity entity).fields)
    {target : String} (kind : field.kind = .reference target) {objects : List Object}
    (each : ∀ object ∈ objects, Writes types model object) {present : Bool}
    (fit : Object.membersFit field.shape present objects.length = true)
    (fits : Object.allFit model (model.entity target) objects = true) (unordered deleteOld : Bool)
    : (Object.reconcile Object.equals model target id field.key objects unordered deleteOld
          (Object.settle model target objects)).Ensures before
        (fun _ after => FieldWritten types model id field (.members present objects) before after) := by
  obtain ⟨kept, known', plain⟩ := lawful.reference known inside kind
  obtain ⟨members, answers, listed, faithful⟩ := Member.ofIds_of_stored start.forest _
    (start.members_stored lawful known inside kind)
  refine Object.reconcile_rule answers
    (.of_unchanged lawful known' plain start kept kind fit faithful listed) ?_
  refine (settle_ensures lawful known' plain objects each fits (start.pool faithful listed)).mono ?_
  intro result middle settled
  obtain ⟨left, ids⟩ := result
  cases found : before.record? id with
  | none =>
      have empty : members = [] := by
        rwa [Context.related, found, List.map_eq_nil_iff] at listed
      subst empty
      obtain rfl : left = [] := List.sublist_nil.mp settled.sub
      rw [Context.setRelated_of_dead (settled.confined.dead start.given found),
        List.subset_nil.mp (Member.discarded_subset deleteOld [])]
      exact .of_dead found settled
  | some record =>
      rw [Context.related_eq found] at listed
      have attached := settled.attach start found listed lawful known inside kind fit
      exact attached.prune start found (Member.discarded_subset deleteOld left) kept kind fit

end EntityStore
