import EntityStore.Proofs.Batch.Lookup
import EntityStore.Proofs.Write.Keeps
import EntityStore.Proofs.Write.Object

/-! Batches of objects.
Every object of a batch is written over the record that its identifier was found under, live or not, or
is added under a new identifier that later objects of the batch find. A batch keeps the records of a
store sound.
-/

namespace EntityStore

variable {types model : Model} {context before middle after : Context} {type : EntityType}

/-- The records form a forest, and each has the attributes that its type stores. -/
structure Sound (types : Model) (context : Context) : Prop where
  forest : Forest types context
  complete : ∀ id, ¬ Incomplete types context id

/-- A confined way to a forest leads from sound records to sound ones. -/
theorem Sound.confined {touched : ObjectId → Prop} (sound : Sound types before)
    (forest : Forest types after) (confined : Confined types touched before after)
    : Sound types after :=
  ⟨forest, fun id lacking => sound.complete id (confined.incomplete lacking)⟩

/-- Identifiers of a type's records are writable among sound records. -/
theorem Sound.writable {entity : String} {id : ObjectId} (sound : Sound types context)
    (given : id.rank < context.nextId.toNat)
    (typed : ∀ {record}, context.record? id = some record → record.entity = entity)
    : Writable types entity id context :=
  ⟨sound.forest, given, typed, fun x _ => sound.complete x⟩

/-- A live record of a type is writable. -/
theorem Sound.writable_live {entity : String} {id : ObjectId} {record : Record}
    (sound : Sound types context) (found : context.record? id = some record)
    (typed : record.entity = entity)
    : Writable types entity id context :=
  sound.writable (sound.forest.bounded found)
    (fun {_} found' => Option.some.inj (found.symm.trans found') ▸ typed)

/-- Deleting records keeps the others sound. -/
theorem Sound.foldl_delete (sound : Sound types context) (ids : List ObjectId)
    : Sound types (ids.foldl Context.delete context) :=
  have pruned := pruned_foldl_delete ids context sound.forest
  sound.confined pruned.forest pruned.confined

/-- The identifier of an object in a batch, empty where it has none. -/
def EntityType.identifier (type : EntityType) (object : Object) : String :=
  (object.identity? type).getD ""

/-- An object with a known identifier is written over the record that it is known for. -/
theorem Object.upsertAll_of_found {object : Object} {objects : List Object}
    {known : Table String ObjectId} {id : ObjectId}
    (found : known.get? (type.identifier object) = some id)
    : upsertAll model type (object :: objects) known
      = (do
        write model type.name object id
        upsertAll model type objects known) := by
  rw [EntityType.identifier] at found
  rw [upsertAll]
  simp only [found, pure_bind]

/-- An object with an unknown identifier is written over a new record, for which it is known then. -/
theorem Object.upsertAll_of_missing {object : Object} {objects : List Object}
    {known : Table String ObjectId} (missing : known.get? (type.identifier object) = none)
    : upsertAll model type (object :: objects) known
      = (do
        let id ← Job.insert type.name
        write model type.name object id
        upsertAll model type objects (known.insert (type.identifier object) id)) := by
  rw [EntityType.identifier] at *
  rw [upsertAll]
  simp only [missing, pure_bind]

/-- The way of a batch: one object after another is written over the record that is known for its
identifier, or is added.
-/
inductive Upserts (types model : Model) (type : EntityType)
    : List Object → Table String ObjectId → Context → Context → Prop where
  | nil {known context} : Upserts types model type [] known context context
  | updated {object objects known id before middle after}
      (found : known.get? (type.identifier object) = some id)
      (written : Written types model type.name object id before middle)
      (breeds : Breeds model type.name id before middle)
      (later : Upserts types model type objects known middle after)
    : Upserts types model type (object :: objects) known before after
  | added {object objects known id before middle after}
      (missing : known.get? (type.identifier object) = none)
      (added : Added types model type.name object before id middle)
      (breeds : Breeds model type.name id before middle)
      (later
        : Upserts types model type objects (known.insert (type.identifier object) id) middle after)
    : Upserts types model type (object :: objects) known before after

/-- A batch keeps the records sound. -/
theorem Upserts.sound {objects : List Object} {known : Table String ObjectId}
    (upserts : Upserts types model type objects known before after) (sound : Sound types before)
    : Sound types after := by
  induction upserts with
  | nil => exact sound
  | updated _ written _ _ ih => exact ih (sound.confined written.forest written.confined)
  | added _ added _ _ ih => exact ih (sound.confined added.forest added.confined)

/-- A batch brings nothing back to life and gives no older record a new holder. -/
theorem Upserts.confined {objects : List Object} {known : Table String ObjectId}
    (upserts : Upserts types model type objects known before after)
    : Confined types (fun _ => True) before after := by
  induction upserts with
  | nil => exact .refl _ _
  | updated _ written _ _ ih =>
      exact (written.confined.mono (fun _ _ _ => trivial)).trans ih (fun _ _ _ => trivial)
  | added _ added _ _ ih =>
      exact (added.confined.mono (fun _ _ _ => trivial)).trans ih (fun _ _ _ => trivial)

/-- What is known stands for identifiers that were given out, and for records of the type if any. -/
def Addressed (type : EntityType) (known : Table String ObjectId) (context : Context) : Prop :=
  ∀ {text id},
    known.get? text = some id
    → id.rank < context.nextId.toNat
      ∧ ∀ {record}, context.record? id = some record → record.entity = type.name

/-- What is known stays so on a confined way. -/
theorem Addressed.confined {touched : ObjectId → Prop} {known : Table String ObjectId}
    (addressed : Addressed type known before) (confined : Confined types touched before after)
    : Addressed type known after := by
  intro text id found
  obtain ⟨given, typed⟩ := addressed found
  refine ⟨Nat.lt_of_lt_of_le given confined.nextId_le, fun {record'} present => ?_⟩
  obtain ⟨record, present, same⟩ := confined.survivor given present
  exact same.trans (typed present)

/-- A record that was added can be known. -/
theorem Addressed.insert {object : Object} {known : Table String ObjectId} {id : ObjectId}
    (addressed : Addressed type known before) (text : String)
    (added : Added types model type.name object before id after)
    : Addressed type (known.insert text id) after := by
  intro text' id' found
  rw [Table.get?_insert] at found
  split at found
  · obtain rfl := Option.some.inj found
    obtain ⟨read, _, stored⟩ := added.result
    obtain ⟨record, present, typed⟩ := stored.live
    refine ⟨added.forest.bounded present, fun {record'} present' => ?_⟩
    rw [present] at present'
    exact Option.some.inj present' ▸ typed
  · exact addressed.confined added.confined found

/-- Objects that fit are upserted one after another, or the job gives up. -/
theorem upsertAll_ensures (lawful : model.Lawful types) (inside : type ∈ model.entities)
    (objects : List Object) (fits : ∀ object ∈ objects, object.fits model type = true)
    {known : Table String ObjectId} (addressed : Addressed type known context)
    (sound : Sound types context)
    : (Object.upsertAll model type objects known).Ensures context
        (fun _ after => Upserts types model type objects known context after) := by
  induction objects generalizing context known with
  | nil => exact .pure .nil
  | cons object objects ih =>
      have knows : model.Knows type.name := lawful.knows inside
      have fit : object.fits model (model.entity type.name) = true := by
        rw [lawful.named type inside]
        exact fits object List.mem_cons_self
      have rest : ∀ other ∈ objects, other.fits model type = true :=
        fun other listed => fits other (List.mem_cons_of_mem object listed)
      cases found : known.get? (type.identifier object) with
      | some id =>
          rw [Object.upsertAll_of_found found]
          obtain ⟨given, typed⟩ := addressed found
          refine (write_ensures lawful object _ id context knows fit
            (sound.writable given typed)).answering.bind (fun _ middle result => ?_)
          obtain ⟨written, answers⟩ := result
          refine (ih rest (addressed.confined written.confined)
            (sound.confined written.forest written.confined)).mono (fun _ after later => ?_)
          exact .updated found written (write_breeds sound.forest answers) later
      | none =>
          rw [Object.upsertAll_of_missing found]
          refine (Job.insert_ensures context type.name).bind (fun id fresh inserted => ?_)
          refine (write_ensures lawful object _ id fresh knows fit
            (inserted.writable sound.forest)).answering.bind (fun _ middle result => ?_)
          obtain ⟨written, answers⟩ := result
          have added := Added.of_written lawful knows sound.forest inserted written
          refine (ih rest (addressed.insert _ added)
            (sound.confined added.forest added.confined)).mono (fun _ after later => ?_)
          exact .added found added (Breeds.of_inserted inserted
            (write_breeds (sound.forest.insert inserted) answers)) later

/-- The records that a batch of objects finds. -/
def EntityType.found (type : EntityType) (objects : List Object) (context : Context)
    : Table String ObjectId :=
  Object.existing type ((type.idField?.map (·.key)).getD "") (objects.map type.identifier) context

/-- The identifying field of a type that has one. -/
theorem Model.Lawful.identified (lawful : model.Lawful types) (inside : type ∈ model.entities)
    (identifiable : type.isIdentifiable = true)
    : ∃ field ∈ type.fields,
        type.idField? = some field
        ∧ field.skipped = false
        ∧ field.shape = .one
        ∧ field.kind = .scalar .string
        ∧ keyNames field.key = [field.key] := by
  obtain ⟨field, identified⟩ := Option.isSome_iff_exists.mp identifiable
  have listed := List.mem_of_find?_eq_some identified
  exact ⟨field, listed, identified,
    lawful.identifiers type inside field listed (by simpa using List.find?_some identified)⟩

/-- A batch finds for each of its identifiers what the identifier resolves to. -/
theorem found_get?_iff (lawful : model.Lawful types) (inside : type ∈ model.entities)
    (identifiable : type.isIdentifiable = true) (keyed : Keyed context.record?)
    {objects : List Object} {text : String} {id : ObjectId}
    : (type.found objects context).get? text = some id
      ↔ text ∈ objects.map type.identifier ∧ Resolves context type text id := by
  obtain ⟨field, _, identified, _, _, _, plain⟩ := lawful.identified inside identifiable
  rw [EntityType.found, identified]
  exact existing_get?_iff identified plain keyed

/-- What a batch finds are live records of the type. -/
theorem found_addressed (lawful : model.Lawful types) (inside : type ∈ model.entities)
    (identifiable : type.isIdentifiable = true) (forest : Forest types context)
    (objects : List Object)
    : Addressed type (type.found objects context) context := by
  intro text id found
  obtain ⟨_, ⟨record, _, live, typed, _⟩, _⟩ :=
    (found_get?_iff lawful inside identifiable forest.keyed).mp found
  refine ⟨forest.bounded live, fun {record'} present => ?_⟩
  rw [live] at present
  exact Option.some.inj present ▸ typed

/-- A batch of objects that fit is upserted, or the job gives up. -/
theorem upsert_ensures (lawful : model.Lawful types) (inside : type ∈ model.entities)
    (identifiable : type.isIdentifiable = true) (objects : List Object)
    (fits : ∀ object ∈ objects, object.fits model type = true) (sound : Sound types context)
    : (Object.upsert model type objects).Ensures context
        (fun _ after =>
          Upserts types model type objects (type.found objects context) context after) :=
  .get_bind (upsertAll_ensures lawful inside objects fits
    (found_addressed lawful inside identifiable sound.forest objects) sound)

end EntityStore
