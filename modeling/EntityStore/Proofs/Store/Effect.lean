import EntityStore.Proofs.Store.Repeat

/-! The effect of a batch on a store.
A batch of objects of a type that does not reach itself leaves one record for every identifier that had
none, and the same records as before for the others. The youngest record of an identifier holds the last
object of the batch with it. Nothing else of the type changes, and a batch that gives up changes nothing.
-/

namespace EntityStore

variable {store : Store}

-----------------------------------------------------------------------------------------
-- Counting records
-----------------------------------------------------------------------------------------

/-- The record is of the type and carries a text in its identifying field. -/
def Record.carries (type : EntityType) (text : String) (record : Record) : Bool :=
  record.entity = type.name
    && type.idField?.bind (fun field => record.value? field.key) = some (.string text)

/-- The number of live records that carry a text. -/
def Context.carriers (context : Context) (type : EntityType) (text : String) : Nat :=
  (context.live.filter (·.carries type text)).length

/-- An identifier stands for a carrier of a text where its record carries it. -/
theorem carries_iff_exists {source : RecordSource} {type : EntityType} {text : String}
    {id : ObjectId}
    : Carries source type text id
      ↔ ∃ record, source id = some record ∧ record.carries type text = true := by
  simp only [Carries, Record.carries, Bool.and_eq_true, decide_eq_true_eq, Option.bind_eq_some_iff]
  constructor
  · rintro ⟨record, field, found, typed, identified, value⟩
    exact ⟨record, found, typed, field, identified, value⟩
  · rintro ⟨record, found, typed, field, identified, value⟩
    exact ⟨record, field, found, typed, identified, value⟩

section Counting

variable {types : Model} {context before after : Context} {type : EntityType} {text : String}

/-- The identifiers of the carriers, all different, in a list of their number. -/
theorem Context.exists_carriers (keyed : Keyed context.record?) (type : EntityType) (text : String)
    : ∃ ids : List ObjectId,
        ids.Nodup
        ∧ (∀ id, id ∈ ids ↔ Carries context.record? type text id)
        ∧ ids.length = context.carriers type text := by
  refine ⟨(context.live.filter (·.carries type text)).map (·.id), ?_, fun id => ?_,
    List.length_map _⟩
  · exact (context.live_ids_nodup keyed).sublist (List.filter_sublist.map _)
  · rw [carries_iff_exists, List.mem_map]
    constructor
    · rintro ⟨record, inside, rfl⟩
      obtain ⟨live, carries⟩ := List.mem_filter.mp inside
      obtain ⟨id, found⟩ := Context.mem_live_iff.mp live
      exact ⟨record, keyed found ▸ found, carries⟩
    · rintro ⟨record, found, carries⟩
      have live := Context.mem_live_iff.mpr ⟨id, found⟩
      exact ⟨record, List.mem_filter.mpr ⟨live, carries⟩, keyed found⟩

/-- Different identifiers that stand for the carriers are as many as there are carriers. -/
theorem Context.carriers_eq_length (keyed : Keyed context.record?) (type : EntityType)
    (text : String) {ids : List ObjectId} (distinct : ids.Nodup)
    (listed : ∀ id, id ∈ ids ↔ Carries context.record? type text id)
    : context.carriers type text = ids.length := by
  obtain ⟨others, distinct', listed', count⟩ := context.exists_carriers keyed type text
  rw [← count]
  refine ((List.perm_ext_iff_of_nodup distinct' distinct).mpr (fun id => ?_)).length_eq
  rw [listed, listed']

/-- Where a text comes to resolve to a carrier, and no other carriers come or go, there are as many as
before, or a single one.
-/
theorem Context.carriers_of_resolves (forest : Forest types before) (keyed : Keyed after.record?)
    (carries
      : ∀ x,
          Carries after.record? type text x
          ↔ Carries before.record? type text x ∨ Resolves after type text x)
    (keeps : ∀ x, Resolves before type text x → Resolves after type text x) {root : ObjectId}
    (resolves : Resolves after type text root)
    : after.carriers type text = max 1 (before.carriers type text) := by
  obtain ⟨ids, distinct, listed, count⟩ := before.exists_carriers forest.keyed type text
  cases ids with
  | nil =>
      have single := Context.carriers_eq_length keyed type text (List.nodup_singleton root)
        (fun x => ?_)
      · rw [← count, single]
        rfl
      · rw [carries, ← listed, List.mem_singleton]
        constructor
        · rintro rfl
          exact Or.inr resolves
        · rintro (none | other)
          · contradiction
          · exact other.unique resolves
  | cons first rest =>
      obtain ⟨youngest, resolves'⟩ :=
        ((listed first).mp List.mem_cons_self).exists_resolves forest
      have same := Context.carriers_eq_length keyed type text distinct (fun x => ?_)
      · rw [same, ← count, List.length_cons]
        omega
      · rw [carries, listed, iff_self_or]
        intro other
        exact other.unique (keeps _ resolves') ▸ resolves'.1

end Counting

-----------------------------------------------------------------------------------------
-- The effect
-----------------------------------------------------------------------------------------

/-- What a batch of objects of a type makes of the records. -/
structure Effect (model : Model) (type : EntityType) (objects : List Object)
    (before after : Context)
    : Prop where
  /-- An identifier that nothing has carried is carried by one record, and the others by as many as
  before. -/
  carriers
    : ∀ object ∈ objects,
        after.carriers type (type.identifier object)
        = max 1 (before.carriers type (type.identifier object))
  /-- The youngest record of an identifier holds the last object of the batch with it. -/
  last
    : ∀ {earlier object later},
        objects = earlier ++ object :: later
        → type.identifier object ∉ later.map type.identifier
        → ∃ id record read,
            Resolves after type (type.identifier object) id
            ∧ after.record? id = some record
            ∧ after.map model type.name record = pure read
            ∧ Object.ReadsBack model type.name object read
  /-- Every other record of the type, and no more, is what it was. -/
  frame
    : ∀ {id record},
        record.entity = type.name
        → (∀ object ∈ objects, ¬ Resolves after type (type.identifier object) id)
        → (after.record? id = some record ↔ before.record? id = some record)

/-- A batch that succeeds on a store of sound records has its effect. -/
theorem Batch.effect (batch : Batch) (sound : Sound Service.types store.view)
    (apart : ¬ Relation.TransGen batch.service.model.Refers batch.type.name batch.type.name)
    (success : (store.run batch.job).1.isOk = true)
    : Effect batch.service.model batch.type batch.objects store.view
        (store.call (.addOrUpdate batch)).view := by
  obtain ⟨after, upserts, same⟩ := batch.upserts_of_success sound success
  have later := (sound.call (.addOrUpdate batch)).forest
  have lawful := batch.service.lawful
  have current := found_current lawful batch.known batch.identifiable sound.forest.keyed
    batch.objects
  have recalled {earlier object later}
      (split : batch.objects = earlier ++ object :: later)
      (last : batch.type.identifier object ∉ later.map batch.type.identifier) :=
    upserts.recalled lawful batch.known batch.identifiable apart sound.forest batch.typed current
      split last
  cases objects : batch.objects with
  | nil =>
      have kept : store.call (.addOrUpdate batch) = store := by
        rw [Store.call_batch, objects]
        rfl
      rw [kept]
      refine ⟨fun object listed => absurd listed List.not_mem_nil, fun split => ?_, fun _ _ => Iff.rfl⟩
      simp at split
  | cons first rest =>
      have some : batch.objects ≠ [] := by simp [objects]
      have same := same some
      rw [← objects]
      have resolves_iff {text : String} {x : ObjectId}
          : Resolves (store.call (.addOrUpdate batch)).view batch.type text x
            ↔ Resolves after batch.type text x := by
        simp only [Resolves, same]
      refine ⟨?_, ?_, ?_⟩
      · intro object listed
        have named : batch.type.identifier object ∈ batch.objects.map batch.type.identifier :=
          List.mem_map_of_mem listed
        obtain ⟨root, resolves⟩ := upserts.exists_resolves lawful batch.known batch.identifiable
          apart sound.forest batch.typed current named
        refine Context.carriers_of_resolves sound.forest later.keyed (fun x => ?_) (fun x before => ?_)
          (resolves_iff.mpr resolves)
        · rw [same, upserts.carries_iff lawful batch.known batch.identifiable apart sound.forest
            batch.typed current, and_iff_right named, resolves_iff]
        · exact resolves_iff.mpr (upserts.resolves lawful batch.known batch.identifiable apart
            sound.forest batch.typed current before)
      · intro earlier object later' split last
        obtain ⟨id, read, resolves, back, stored⟩ := recalled split last
        obtain ⟨record, found, _⟩ := stored.live
        rw [← same] at stored found
        exact ⟨id, record, read, resolves_iff.mpr resolves, found,
          Context.map_of_stored later found stored, back⟩
      · intro id record typed other
        rw [same]
        refine upserts.unchanged lawful batch.known batch.identifiable apart sound.forest batch.typed
          current (fun text named resolves => ?_) typed
        obtain ⟨object, listed, rfl⟩ := List.mem_map.mp named
        exact other object listed (resolves_iff.mpr resolves)

/-- Whoever learns that a job gave up learns that nothing has happened. -/
theorem Store.run_of_panicked {α : Type} {job : Job α} {message : String}
    (fails : (store.run job).1 = .error (.panicked message))
    : (store.run job).2 = ([], store) := by
  unfold Store.run at *
  split
  · next running =>
      rw [if_pos running] at fails
      split at fails
      · dsimp only at fails
        split at fails <;> cases fails
      · rfl
      · cases fails
  · rfl

/-- Where nobody is watching a batch succeeds or gives up. -/
theorem Store.Quiet.batch (quiet : store.Quiet) (sound : Sound Service.types store.view)
    (batch : Batch)
    : (store.run batch.job).1 = .ok ()
      ∨ ∃ message, (store.run batch.job).1 = .error (.panicked message) := by
  cases outcome : batch.job store.view with
  | ok result =>
      have success := quiet.success outcome
      cases answer : (store.run batch.job).1 with
      | ok _ => exact Or.inl rfl
      | error _ =>
          rw [answer] at success
          contradiction
  | error abort =>
      obtain ⟨message, rfl⟩ := (batch.ensures sound).panic outcome
      refine Or.inr ⟨message.getD "unknown panic", ?_⟩
      unfold Store.run
      rw [if_pos quiet.running, outcome]

/-- On a store that has seen any calls since it had no records, a batch of objects of a type that does
not reach itself, whose identifiers may be repeated, has its whole effect if it succeeds: one record for
each identifier that had none, the last object of each identifier in its youngest record, and nothing
else of the type touched. If it gives up in the middle the store is what it was, and nothing is delivered.
Where nobody is watching it does one or the other.
Witness: each object goes to the record that its identifier resolves to, and the records of a type that
does not reach itself are not nested.
-/
theorem addOrUpdate_effect (empty : store.records = .empty) (calls : List Call) (batch : Batch)
    (apart : ¬ Relation.TransGen batch.service.model.Refers batch.type.name batch.type.name)
    : let before := store.after calls
      ((before.run batch.job).1 = .ok ()
        → Effect batch.service.model batch.type batch.objects before.view
            (before.call (.addOrUpdate batch)).view)
      ∧ (∀ message,
          (before.run batch.job).1 = .error (.panicked message)
          → before.addOrUpdate batch.service.model batch.type.name batch.objects = ([], before))
      ∧ (before.Quiet
        → (before.run batch.job).1 = .ok ()
          ∨ ∃ message, (before.run batch.job).1 = .error (.panicked message)) := by
  intro before
  have sound : Sound Service.types before.view := .after empty calls
  refine ⟨fun success => ?_, fun message fails => ?_, fun quiet => quiet.batch sound batch⟩
  · exact batch.effect sound apart (by rw [success]; rfl)
  · rw [Store.addOrUpdate, batch.service.lawful.named batch.type batch.known]
    split
    · rfl
    · exact Store.run_of_panicked fails

/-- A book of some format, with a title. -/
private def titled (id title : String) (format : BookFormat) : Object :=
  .mk
    [.scalar (.one (.string id)),
      .scalar (.one (.string title)),
      .scalar (.one (.integer 0)),
      .scalar (.many []),
      .scalar (.option none),
      .scalar (.option none),
      .textual (.one (.format format))]

/-- A batch of three books, the first and the last of one identifier. -/
private def reprints (format : BookFormat) : Batch where
  service := .library
  type := Library.book
  objects := [titled "b" "Silence" .ebook, titled "c" "Roots" format, titled "b" "Stillness" .ebook]
  known := by decide
  identifiable := rfl
  typed := by cases format <;> decide +kernel

/-- Two authors have each a book of one identifier. Upserting books with it leaves the two of them and
adds the other one; where there is no text for the other one's format nothing happens.
-/
theorem reprints_effect
    : let calls : List Call :=
        [.addOrUpdate (Library.authorOf "a" ["b"] (by decide +kernel)),
          .addOrUpdate (Library.authorOf "d" ["b"] (by decide +kernel))]
      let before := (Store.opened Library.model.schema).after calls
      let next := before.call (.addOrUpdate (reprints .paperback))
      ¬ Relation.TransGen Library.model.Refers Library.book.name Library.book.name
      ∧ (before.run (reprints .paperback).job).1 = .ok ()
      ∧ Effect Library.model Library.book (reprints .paperback).objects before.view next.view
      ∧ next.view.carriers Library.book "b" = 2
      ∧ next.view.carriers Library.book "c" = 1
      ∧ (before.run (reprints .bomb).job).1 = .error (.panicked "format bomb")
      ∧ before.addOrUpdate Library.model Library.book.name (reprints .bomb).objects
        = ([], before) := by
  intro calls before next
  have known : Library.book ∈ Service.library.model.entities := by decide
  have apart : ¬ Relation.TransGen Library.model.Refers Library.book.name Library.book.name :=
    fun way => absurd (Service.library.keeper_of_reaches_self known way).1 (by decide)
  have success : (before.run (reprints .paperback).job).1 = .ok () := by decide +kernel
  have fails : (before.run (reprints .bomb).job).1 = .error (.panicked "format bomb") := by
    decide +kernel
  have empty : (Store.opened Library.model.schema).records = .empty := rfl
  have effect := (addOrUpdate_effect empty calls (reprints .paperback) apart).1 success
  have undone := (addOrUpdate_effect empty calls (reprints .bomb) apart).2.1 "format bomb" fails
  exact ⟨apart, success, effect, by decide +kernel, by decide +kernel, fails, undone⟩

end EntityStore
