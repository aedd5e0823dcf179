import EntityStore.Proofs.Forest.Basic

/-! Writes that are confined to a part of the records.
Apart from the identifiers that a job touches, the older records stay as they are. What is touched
may change or go, but no identifier comes back to life, no older record gains an older member, and no
record loses the attributes that its type asks for.
-/

namespace EntityStore

/-- The slot is one that some content of the field is stored as. -/
def Field.Encodes (field : Field) (slot : Option Value) : Prop :=
  match field.kind with
  | .scalar type =>
      ∃ content : Shaped Scalar,
        content.shape = field.shape
        ∧ content.items.all type.admits = true
        ∧ slot = content.toAttribute
  | .textual type =>
      ∃ content : Shaped Textual,
        content.shape = field.shape
        ∧ content.items.all type.admits = true
        ∧ content.toTextAttribute = .ok slot
  | .reference _ => True

/-- Every attribute that the record's type stores is there in the form that its field writes. -/
def Record.Complete (types : Model) (record : Record) : Prop :=
  ∀ field ∈ (types.entity record.entity).fields,
    field.skipped = false → field.Encodes (record.value? field.key)

/-- The identifier stands for a live record that is not complete. -/
def Incomplete (types : Model) (context : Context) (id : ObjectId) : Prop :=
  ∃ record, context.record? id = some record ∧ ¬ record.Complete types

/-- The way from one context to a later one is confined to the identifiers that are touched. -/
structure Confined (types : Model) (touched : ObjectId → Prop) (before after : Context)
    : Prop where
  committed : after.committed = before.committed
  schema : after.schema = before.schema
  nextId_le : before.nextId.toNat ≤ after.nextId.toNat
  frame
    : ∀ {id},
        id.rank < before.nextId.toNat
        → ¬ touched id
        → after.record? id = before.record? id
  survivor
    : ∀ {id record'},
        id.rank < before.nextId.toNat
        → after.record? id = some record'
        → ∃ record, before.record? id = some record ∧ record'.entity = record.entity
  inherits
    : ∀ {owner key member},
        member.rank < before.nextId.toNat
        → Holds after.record? owner key member
        → Holds before.record? owner key member
  incomplete : ∀ {id}, Incomplete types after id → Incomplete types before id

namespace Confined

variable {types : Model} {touched touched' : ObjectId → Prop} {before middle after : Context}

/-- Nothing at all is confined to anything. -/
theorem refl (touched : ObjectId → Prop) (context : Context)
    : Confined types touched context context :=
  { committed := rfl
    schema := rfl
    nextId_le := Nat.le_refl _
    frame := fun _ _ => rfl
    survivor := fun _ found => ⟨_, found, rfl⟩
    inherits := fun _ held => held
    incomplete := id }

/-- What is confined to a part is confined to the whole; only the older identifiers count. -/
theorem mono (confined : Confined types touched before after)
    (wider : ∀ id, id.rank < before.nextId.toNat → touched id → touched' id)
    : Confined types touched' before after :=
  { confined with
    frame := fun old untouched => confined.frame old (fun t => untouched (wider _ old t)) }

/-- Confined ways compose: what the second one touches is older than the first one only within what
the first one may touch.
-/
theorem trans (first : Confined types touched before middle)
    (second : Confined types touched' middle after)
    (within : ∀ id, id.rank < before.nextId.toNat → touched' id → touched id)
    : Confined types touched before after := by
  have older {id : ObjectId} (old : id.rank < before.nextId.toNat)
      : id.rank < middle.nextId.toNat :=
    Nat.lt_of_lt_of_le old first.nextId_le
  refine { committed := second.committed.trans first.committed
           schema := second.schema.trans first.schema
           nextId_le := Nat.le_trans first.nextId_le second.nextId_le
           frame := ?_
           survivor := ?_
           inherits := ?_
           incomplete := fun lacking => first.incomplete (second.incomplete lacking) }
  · intro id old untouched
    rw [second.frame (older old) (fun t => untouched (within id old t)), first.frame old untouched]
  · intro id record' old found
    obtain ⟨record, found, same⟩ := second.survivor (older old) found
    obtain ⟨first, found, same'⟩ := first.survivor old found
    exact ⟨first, found, same.trans same'⟩
  · intro owner key member old held
    exact first.inherits old (second.inherits (older old) held)

/-- An older identifier without a record stays without one. -/
theorem dead (confined : Confined types touched before after) {id : ObjectId}
    (old : id.rank < before.nextId.toNat) (absent : before.record? id = none)
    : after.record? id = none := by
  cases found : after.record? id with
  | none => rfl
  | some record' =>
      obtain ⟨record, present, _⟩ := confined.survivor old found
      rw [absent] at present
      contradiction

/-- What nothing older holds stays unheld. -/
theorem unheld (confined : Confined types touched before after) {id : ObjectId}
    (old : id.rank < before.nextId.toNat) (free : Unheld before.record? id)
    : Unheld after.record? id := by
  intro owner link
  obtain ⟨key, held⟩ := link
  exact free owner ⟨key, confined.inherits old held⟩

/-- A path to an older identifier is an older path.
Witness: the owner of an older member was live before, so it is older as well.
-/
theorem reaches (confined : Confined types touched before after) (forest : Forest types before)
    {root id : ObjectId} (old : id.rank < before.nextId.toNat)
    (path : Reaches after.record? root id)
    : Reaches before.record? root id := by
  induction path with
  | refl => exact .refl
  | tail _ link ih =>
      obtain ⟨key, held⟩ := link
      obtain ⟨record, live, member⟩ := confined.inherits old held
      exact (ih (forest.bounded live)).tail ⟨key, record, live, member⟩

theorem below (confined : Confined types touched before after) (forest : Forest types before)
    {root id : ObjectId} (old : id.rank < before.nextId.toNat)
    (path : Below after.record? root id)
    : Below before.record? root id := by
  induction path with
  | single link =>
      obtain ⟨key, held⟩ := link
      exact .single ⟨key, confined.inherits old held⟩
  | tail _ link ih =>
      obtain ⟨key, held⟩ := link
      obtain ⟨record, live, member⟩ := confined.inherits old held
      exact (ih (forest.bounded live)).tail ⟨key, record, live, member⟩

/-- The tree of a root that is not touched anywhere stays as it is. -/
theorem frame_reaches (confined : Confined types touched before after)
    (forest : Forest types before) {root : ObjectId} (old : root.rank < before.nextId.toNat)
    (untouched : ∀ id, Reaches before.record? root id → ¬ touched id)
    : ∀ id, Reaches before.record? root id → after.record? id = before.record? id := by
  intro id path
  refine confined.frame ?_ (untouched id path)
  rcases forest.live_of_reaches path with same | ⟨record, live⟩
  · exact same ▸ old
  · exact forest.bounded live

end Confined

end EntityStore
