import EntityStore.Proofs.Batch.Single
import EntityStore.Proofs.Context.Sight

/-! Batches one after the other.
A batch looks its identifiers up once and remembers the records that it adds. Where its type does not
reach itself this is what a look-up would find at any time, so the rest of a batch may as well be a batch
of its own. No batch tells pending records from committed ones, so it does not matter either whether the
first one was committed in between.
-/

namespace EntityStore

variable {types model : Model} {context : Context} {type : EntityType} {known : Table String ObjectId}

-----------------------------------------------------------------------------------------
-- What a batch can tell
-----------------------------------------------------------------------------------------

/-- The operations of a write do not tell pending records from committed ones. -/
private theorem oblivious_closed (model : Model)
    : Job.Closed model (fun _ => True) (fun job => job.Oblivious) where
  pure answer := .pure answer
  lift attempt := .lift attempt
  bind first later := first.bind later
  setValue id key value := .write (fun alike => Context.sight_setValue alike id key value)
  setRelated id key ids := .write (fun alike => Context.sight_setRelated alike id key ids)
  deleteAll members := .write (fun alike =>
    Context.sight_foldl (fun alike member => Context.sight_delete alike member.id) alike members)
  insert _ := .insert _
  members target owner key _ later := by
    refine .get_bind (fun {a b} alike => ?_) (fun context => (Job.Oblivious.lift _).bind later)
    have records : a.record? = b.record? := funext (Context.sight_eq_iff.mp alike).1
    have members (ids : List ObjectId)
        : Member.ofIds model target a ids = Member.ofIds model target b ids := by
      induction ids with
      | nil => rfl
      | cons id ids ih => rw [Member.ofIds, Member.ofIds, records, Context.map_congr records, ih]
    rw [members, Context.related_congr records]

/-- Writing an object does not tell pending records from committed ones. -/
theorem write_oblivious (object : Object) (entity : String) (id : ObjectId)
    : (Object.write model entity object id).Oblivious :=
  write_closed (oblivious_closed model) (fun _ _ => trivial) object id (fun _ _ => trivial)

private theorem upsertAll_oblivious (objects : List Object) (known : Table String ObjectId)
    : (Object.upsertAll model type objects known).Oblivious := by
  induction objects generalizing known with
  | nil => exact .pure ()
  | cons object objects ih =>
      cases found : known.get? (type.identifier object) with
      | some id =>
          rw [Object.upsertAll_of_found found]
          exact (write_oblivious object _ id).bind (fun _ => ih known)
      | none =>
          rw [Object.upsertAll_of_missing found]
          exact (Job.Oblivious.insert _).bind
            (fun id => (write_oblivious object _ id).bind (fun _ => ih _))

/-- A batch does not tell pending records from committed ones. -/
theorem upsert_oblivious (objects : List Object)
    : (Object.upsert model type objects).Oblivious := by
  refine .get_bind (fun {a b} alike => ?_) (fun context => upsertAll_oblivious objects _)
  have records : a.record? = b.record? := funext (Context.sight_eq_iff.mp alike).1
  simp only [Object.existing, Context.matching_congr records]

-----------------------------------------------------------------------------------------
-- What a batch remembers
-----------------------------------------------------------------------------------------

/-- A batch knows what it finds at its start. -/
private theorem upsert_run (objects : List Object)
    : Object.upsert model type objects context
      = Object.upsertAll model type objects (type.found objects context) context :=
  rfl

/-- A batch depends on nothing but what is known for its own identifiers. -/
private theorem upsertAll_congr (model : Model) {objects : List Object}
    {known known' : Table String ObjectId}
    (same : ∀ text ∈ objects.map type.identifier, known.get? text = known'.get? text)
    : Object.upsertAll model type objects known = Object.upsertAll model type objects known' := by
  induction objects generalizing known known' with
  | nil => rfl
  | cons object objects ih =>
      obtain ⟨here, later⟩ := List.forall_mem_cons.mp same
      cases found : known.get? (type.identifier object) with
      | some id =>
          rw [Object.upsertAll_of_found found, Object.upsertAll_of_found (here ▸ found), ih later]
      | none =>
          rw [Object.upsertAll_of_missing found, Object.upsertAll_of_missing (here ▸ found)]
          have rest (id : ObjectId)
              : Object.upsertAll model type objects (known.insert (type.identifier object) id)
                = Object.upsertAll model type objects
                    (known'.insert (type.identifier object) id) :=
            ih (fun text named => by
              rw [Table.get?_insert, Table.get?_insert, later text named])
          simp only [rest]

/-- Two tables that are current for a text know the same of it. -/
private theorem Current.get?_eq {texts texts' : List String} {known known' : Table String ObjectId}
    (current : Current type texts known context) (current' : Current type texts' known' context)
    {text : String} (named : text ∈ texts) (named' : text ∈ texts')
    : known.get? text = known'.get? text := by
  apply Option.ext
  intro id
  rw [current text named, current' text named']

section Append

variable (lawful : model.Lawful types) (inside : type ∈ model.entities)
include lawful inside

/-- Writing an object over the record that its identifier resolves to upserts it. -/
private theorem write_resolved {object : Object} {id : ObjectId} (sound : Sound types context)
    (fit : object.fits model (model.entity type.name) = true)
    (resolves : Resolves context type (type.identifier object) id)
    : (Object.write model type.name object id).Ensures context (fun _ after =>
        Sound types after ∧ Upserted types model type object context id after) := by
  obtain ⟨record, live, typed⟩ := resolves.1.live
  have writable := sound.writable_live live typed
  refine (write_ensures lawful object _ id context (lawful.knows inside) fit
    writable).answering.mono (fun _ after result => ?_)
  obtain ⟨written, answers⟩ := result
  exact ⟨sound.confined written.forest written.confined,
    .of_written resolves written (write_breeds sound.forest answers)⟩

/-- Writing an object to a new record upserts it where its identifier resolves to nothing. -/
private theorem write_inserted {object : Object} {id : ObjectId} {fresh : Context}
    (sound : Sound types context) (fit : object.fits model (model.entity type.name) = true)
    (missing : ∀ x, ¬ Resolves context type (type.identifier object) x)
    (inserted : context.Inserted type.name id fresh)
    : (Object.write model type.name object id).Ensures fresh (fun _ after =>
        Sound types after ∧ Upserted types model type object context id after) := by
  have knows : model.Knows type.name := lawful.knows inside
  refine (write_ensures lawful object _ id fresh knows fit
    (inserted.writable sound.forest)).answering.mono (fun _ after result => ?_)
  obtain ⟨written, answers⟩ := result
  have added := Added.of_written lawful knows sound.forest inserted written
  have breeds : Breeds model type.name id context after :=
    Breeds.of_inserted inserted (write_breeds (sound.forest.insert inserted) answers)
  exact ⟨sound.confined added.forest added.confined, .of_added sound.forest missing added breeds⟩

variable (identifiable : type.isIdentifiable = true)
  (apart : ¬ Relation.TransGen model.Refers type.name type.name)
include identifiable apart

/-- Where what is known is current, the rest of a batch may as well look its identifiers up again.
Witness: induction on the first objects; each leaves what is known current.
-/
private theorem upsertAll_append {first second : List Object}
    (fits : ∀ object ∈ first, object.fits model type = true) (sound : Sound types context)
    (current : Current type ((first ++ second).map type.identifier) known context)
    : Object.upsertAll model type (first ++ second) known context
      = (do
          Object.upsertAll model type first known
          Object.upsert model type second : Job Unit) context := by
  induction first generalizing context known with
  | nil =>
      have looked := found_current lawful inside identifiable sound.forest.keyed second
      have same := upsertAll_congr model
        (fun text named => current.get?_eq looked named named)
      exact congrFun same context
  | cons object first ih =>
      obtain ⟨fit, fits⟩ := List.forall_mem_cons.mp fits
      have fit' : object.fits model (model.entity type.name) = true := by
        rwa [lawful.named type inside]
      have here := current (type.identifier object) List.mem_cons_self
      have rest {middle : Context} {id : ObjectId} {known' : Table String ObjectId}
          (step : Upserted types model type object context id middle)
          (later
            : ∀ text,
                known'.get? text
                = if text = type.identifier object then some id else known.get? text)
          : Current type ((first ++ second).map type.identifier) known' middle := by
        intro text named
        exact step.current lawful inside identifiable apart sound.forest fit current later text
          (List.mem_cons_of_mem _ named)
      cases found : known.get? (type.identifier object) with
      | some id =>
          rw [List.cons_append, Object.upsertAll_of_found found, Object.upsertAll_of_found found,
            bind_assoc]
          refine (write_resolved lawful inside sound fit' ((here id).mp found)).bind_congr
            (fun _ middle result => ?_)
          obtain ⟨sound', step⟩ := result
          refine ih fits sound' (rest step (fun text => ?_))
          split
          · next own => exact own ▸ found
          · rfl
      | none =>
          have missing (x : ObjectId) : ¬ Resolves context type (type.identifier object) x :=
            fun resolves => by simp [(here x).mpr resolves] at found
          rw [List.cons_append, Object.upsertAll_of_missing found, Object.upsertAll_of_missing found,
            bind_assoc]
          refine (Job.insert_ensures context type.name).bind_congr (fun id fresh inserted => ?_)
          rw [bind_assoc]
          refine (write_inserted lawful inside sound fit' missing inserted).bind_congr
            (fun _ middle result => ?_)
          obtain ⟨sound', step⟩ := result
          exact ih fits sound' (rest step (fun text => Table.get?_insert known _ text id))

/-- On sound records a batch is its first objects and then the others, each a batch of its own. -/
theorem upsert_append {first second : List Object}
    (fits : ∀ object ∈ first, object.fits model type = true) (sound : Sound types context)
    : Object.upsert model type (first ++ second) context
      = (do
          Object.upsert model type first
          Object.upsert model type second : Job Unit) context := by
  have looked := found_current lawful inside identifiable sound.forest.keyed (first ++ second)
  have same : Object.upsertAll model type first (type.found (first ++ second) context)
      = Object.upsertAll model type first (type.found first context) := by
    refine upsertAll_congr model (fun text named => looked.get?_eq
      (found_current lawful inside identifiable sound.forest.keyed first) ?_ named)
    rw [List.map_append]
    exact List.mem_append_left _ named
  have split := upsertAll_append lawful inside identifiable apart fits sound looked
  rw [upsert_run, split, same, Job.bind_run, Job.bind_run, upsert_run]

end Append

end EntityStore
