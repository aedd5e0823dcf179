import EntityStore.Proofs.Batch.Secure
import EntityStore.Proofs.Deletion.Closure

/-! How identifiers come to be carried by several records.
A relation looks for the records of its objects among its own members, so an object that is nested in
another one can get a new record although its identifier is carried elsewhere. Nothing else makes a record
carry an identifier that another one carries: a write spreads an identifier to no more records than it
nests objects of it, and a batch finds the records of its own objects first.
-/

namespace EntityStore

-----------------------------------------------------------------------------------------
-- Nested objects
-----------------------------------------------------------------------------------------

namespace Object

variable (model : Model) (type : EntityType) (text : String)

/-- The object of an entity is one of the type and has the identifier. -/
def isNamed (object : Object) (entity : String) : Bool :=
  entity = type.name && object.identity? (model.entity entity) = some text

mutual
/-- How many objects of the type with the identifier are nested in the object of an entity, at any
depth. -/
def nestings (entity : String) : Object → Nat
  | mk contents => contentsNestings (model.entity entity).fields contents

/-- How many there are in the contents of fields. -/
def contentsNestings : List Field → List Content → Nat
  | field :: fields, content :: contents =>
      contentNestings field content + contentsNestings fields contents
  | _, _ => 0

/-- How many there are in the content of a field. -/
def contentNestings (field : Field) : Content → Nat
  | .scalar _ => 0
  | .textual _ => 0
  | .members _ objects => match field.kind with
      | .reference target => allNestings target objects
      | _ => 0

/-- How many there are among objects of an entity and in them. -/
def allNestings (target : String) : List Object → Nat
  | [] => 0
  | object :: objects =>
      (object.isNamed model type text target).toNat + nestings target object
        + allNestings target objects
end

end Object

/-- Apart from records that are left out of account, at most so many records carry the text in the later
context that have not carried it in the earlier one. -/
def Spreads (type : EntityType) (text : String) (free : ObjectId → Prop) (count : Nat)
    (before after : Context)
    : Prop :=
  ∃ fresh : List ObjectId,
    fresh.length ≤ count
    ∧ ∀ x,
        ¬ free x
        → Carries after.record? type text x
        → Carries before.record? type text x ∨ x ∈ fresh

variable {types model : Model} {type : EntityType} {text : String} {free : ObjectId → Prop}
  {before middle after : Context}

namespace Spreads

/-- Where every record has carried the text there is nothing new. -/
theorem of_carries
    (carried
      : ∀ x, ¬ free x → Carries after.record? type text x → Carries before.record? type text x)
    : Spreads type text free 0 before after :=
  ⟨[], Nat.le_refl _, fun x outside carries => Or.inl (carried x outside carries)⟩

theorem refl (context : Context) : Spreads type text free 0 context context :=
  of_carries (fun _ _ carries => carries)

theorem trans {count more : Nat} (first : Spreads type text free count before middle)
    (second : Spreads type text free more middle after)
    : Spreads type text free (count + more) before after := by
  obtain ⟨fresh, few, carried⟩ := first
  obtain ⟨fresh', few', carried'⟩ := second
  refine ⟨fresh ++ fresh', ?_, fun x outside carries => ?_⟩
  · rw [List.length_append]
    omega
  · rw [List.mem_append]
    rcases carried' x outside carries with earlier | new
    · exact (carried x outside earlier).imp_right Or.inl
    · exact Or.inr (Or.inr new)

/-- What is left out of account can be more, and so can the number. -/
theorem mono {free' : ObjectId → Prop} {count more : Nat}
    (spreads : Spreads type text free count before after) (wider : ∀ x, free x → free' x)
    (most : count ≤ more)
    : Spreads type text free' more before after := by
  obtain ⟨fresh, few, carried⟩ := spreads
  exact ⟨fresh, Nat.le_trans few most, fun x outside => carried x (fun inside => outside (wider x inside))⟩

/-- One record that was left out of account counts, unless it does not carry the text newly. -/
theorem count_one {count : Nat} {id : ObjectId} {counts : Bool}
    (spreads : Spreads type text (· = id) count before after)
    (carries
      : Carries after.record? type text id
        → Carries before.record? type text id ∨ counts = true)
    : Spreads type text (fun _ => False) (counts.toNat + count) before after := by
  obtain ⟨fresh, few, carried⟩ := spreads
  cases counts with
  | true =>
      refine ⟨id :: fresh, ?_, fun x _ carries => ?_⟩
      · rw [List.length_cons, Bool.toNat_true]
        omega
      · by_cases same : x = id
        · exact Or.inr (same ▸ List.mem_cons_self)
        · exact (carried x same carries).imp_right (List.mem_cons_of_mem id)
  | false =>
      refine ⟨fresh, by simpa using few, fun x _ carries' => ?_⟩
      by_cases same : x = id
      · subst same
        exact Or.inl ((carries carries').resolve_right Bool.false_ne_true)
      · exact carried x same carries'

/-- A record that was left out of account is left out still, or does not carry the text. -/
theorem except {count : Nat} {id : ObjectId} (spreads : Spreads type text (· = id) count before after)
    (only : Carries after.record? type text id → free id)
    : Spreads type text free count before after := by
  obtain ⟨fresh, few, carried⟩ := spreads
  refine ⟨fresh, few, fun x outside carries => carried x (fun same => ?_) carries⟩
  subst same
  exact outside (only carries)

/-- What was left out of account can be counted in where it has carried the text before. -/
theorem cover {count : Nat} (spreads : Spreads type text free count before after)
    (carried : ∀ x, free x → Carries before.record? type text x)
    : Spreads type text (fun _ => False) count before after := by
  obtain ⟨fresh, few, carried'⟩ := spreads
  refine ⟨fresh, few, fun x _ carries => ?_⟩
  by_cases inside : free x
  · exact Or.inl (carried x inside)
  · exact carried' x inside carries

/-- Setting an attribute matters to no record but its own. -/
theorem setValue (id : ObjectId) (key : String) (value : Option Value)
    : Spreads type text (· = id) 0 before (before.setValue id key value) := by
  refine of_carries (fun x other carries => carries.congr ?_)
  rw [Context.record?_setValue, if_neg other]

/-- Relations do not matter. -/
theorem setRelated (id : ObjectId) (key : String) (ids : List ObjectId)
    : Spreads type text free 0 before (before.setRelated id key ids) := by
  refine of_carries (fun x _ carries => ?_)
  obtain ⟨record', field, found, typed, identified, value⟩ := carries
  obtain ⟨record, present, _, entity, attributes⟩ := Context.found_of_setRelated found
  refine ⟨record, field, present, entity.symm.trans typed, identified, ?_⟩
  rwa [Record.value?, ← attributes]

/-- Deleting makes no record carry anything. -/
theorem foldl_delete (keyed : Keyed before.record?) (ids : List ObjectId)
    : Spreads type text free 0 before (ids.foldl Context.delete before) := by
  refine of_carries (fun x _ carries => ?_)
  obtain ⟨record', field, found, typed, identified, value⟩ := carries
  obtain ⟨_, record, present, rfl⟩ := (cleared_foldl_delete before ids keyed).sheds.found found
  refine ⟨record, field, present, by simpa using typed, identified, ?_⟩
  rwa [Record.value?, Record.shed_attributes] at value

/-- A new record matters to no other one, so it does not matter whether it is there already. -/
theorem of_inserted {entity : String} {id : ObjectId} {count : Nat}
    (inserted : before.Inserted entity id middle)
    (spreads : Spreads type text (· = id) count middle after)
    : Spreads type text (· = id) count before after := by
  have first : Spreads type text (· = id) 0 before middle := by
    refine of_carries (fun x other carries => carries.congr ?_)
    rw [inserted.records, if_neg other]
  have both := first.trans spreads
  rwa [Nat.zero_add] at both

end Spreads

-----------------------------------------------------------------------------------------
-- Writing an object
-----------------------------------------------------------------------------------------

/-- What an object is stored as carries the text only where the object has it. -/
theorem Object.isNamed_of_carries (lawful : model.Lawful types) {entity : String}
    (known : model.Knows entity) (own : types.entity type.name = type) {object read : Object}
    (fits : object.fits model (model.entity entity) = true)
    (back : ReadsBack model entity object read) {source : RecordSource} {id : ObjectId}
    (stored : Stored model source entity read id) (carries : Carries source type text id)
    : object.isNamed model type text entity = true := by
  obtain ⟨record, found, typed⟩ := stored.live
  obtain ⟨record', found', typed'⟩ := carries.live
  obtain rfl : record = record' := Option.some.inj (found.symm.trans found')
  have same : entity = type.name := typed.symm.trans typed'
  have entity_eq : model.entity entity = type := by
    rw [← lawful.entity_eq known, same, own]
  have identifiable : (model.entity entity).isIdentifiable = true := by
    obtain ⟨_, _, _, _, identified, _⟩ := carries
    rw [entity_eq, EntityType.isIdentifiable, identified]
    rfl
  obtain ⟨text', identity⟩ := exists_identity lawful known identifiable fits
  have carries' := stored.carries lawful known (back.identity lawful known identity)
  rw [entity_eq] at carries'
  rw [carries'.unique carries] at identity
  exact Bool.and_eq_true_iff.mpr ⟨decide_eq_true same, decide_eq_true identity⟩

/-- Apart from the record that it is written to, an object spreads the text no more often than it nests
it. -/
def SpreadsBy (types model : Model) (type : EntityType) (text : String) (object : Object) : Prop :=
  ∀ entity id context,
    model.Knows entity
    → object.fits model (model.entity entity) = true
    → Writable types entity id context
    → (Object.write model entity object id).Ensures context
        (fun _ after =>
          Spreads type text (· = id) (object.nestings model type text entity) context after)

section Write

variable (lawful : model.Lawful types) (own : types.entity type.name = type) {target : String}
  (known : model.Knows target)
include lawful own known

/-- The record that an object is written to carries the text afterwards only where the object has it. -/
private theorem SpreadsBy.step {object : Object} (spreads : SpreadsBy types model type text object)
    (fits : object.fits model (model.entity target) = true) {id : ObjectId}
    (start : Writable types target id before)
    : (Object.write model target object id).Ensures before
        (fun _ after =>
          Written types model target object id before after
          ∧ Spreads type text (· = id) (object.nestings model type text target) before after
          ∧ (Carries after.record? type text id
            → object.isNamed model type text target = true)) := by
  refine ((write_ensures lawful object target id before known fits start).and
    (spreads target id before known fits start)).mono ?_
  rintro _ after ⟨written, spreads⟩
  refine ⟨written, spreads, fun carries => ?_⟩
  cases live : before.record? id with
  | none =>
      obtain ⟨record, present, _⟩ := carries.live
      rw [written.confined.dead start.given live] at present
      contradiction
  | some record =>
      obtain ⟨read, back, stored⟩ := written.result live
      exact Object.isNamed_of_carries lawful known own fits back stored carries

/-- An object that claims a record makes at most itself and what it nests carry the text.
Witness: a member that is written over has carried the identifier already.
-/
private theorem claim_spreads {owner : ObjectId} {object : Object}
    (spreads : SpreadsBy types model type text object)
    (fits : object.fits model (model.entity target) = true) {pool : List Member}
    (start : Pool types model target owner before pool)
    : (Object.claim model target object pool).Ensures before
        (fun _ after =>
          Spreads type text (fun _ => False)
            ((object.isNamed model type text target).toNat
              + object.nestings model type text target)
            before after) := by
  unfold Object.claim
  split
  · exact .pure ((Spreads.refl before).mono (fun _ inside => inside) (Nat.zero_le _))
  · split
    · next member rest taken =>
        obtain ⟨identifies, perm, _⟩ := Member.take?_eq_some taken
        have inside : member ∈ pool := perm.mem_iff.mpr List.mem_cons_self
        have faithful := start.faithful member inside
        simp only [pure_bind]
        refine (spreads.step lawful own known fits (start.writable inside)).bind ?_
        rintro _ after ⟨_, spreads, only⟩
        refine .pure (spreads.count_one (fun carries => Or.inl ?_))
        obtain ⟨same, identity⟩ := Bool.and_eq_true_iff.mp (only carries)
        have identity := of_decide_eq_true identity
        rw [Member.identifies, identity, faithful.mapped] at identifies
        have carries' := faithful.stored.carries lawful known (of_decide_eq_true identifies)
        rwa [← lawful.entity_eq known, of_decide_eq_true same, own] at carries'
    · rw [model.entity_name]
      simp only [pure_bind]
      refine (Job.insert_ensures before target).bind (fun id middle inserted => ?_)
      refine (spreads.step lawful own known fits (inserted.writable start.forest)).bind ?_
      rintro _ after ⟨_, spreads, only⟩
      exact .pure ((spreads.of_inserted inserted).count_one (fun carries => Or.inr (only carries)))

/-- Objects that are settled make at most themselves and what they nest carry the text.
Witness: induction on the objects; every claim leaves a pool.
-/
private theorem settle_spreads {owner : ObjectId} (plain : (model.entity target).Plain)
    (objects : List Object) (each : ∀ object ∈ objects, SpreadsBy types model type text object)
    (fits : Object.allFit model (model.entity target) objects = true) {pool : List Member}
    (start : Pool types model target owner before pool)
    : (Object.settle model target objects pool).Ensures before
        (fun _ after =>
          Spreads type text (fun _ => False) (Object.allNestings model type text target objects)
            before after) := by
  induction objects generalizing before pool with
  | nil =>
      rw [Object.settle]
      exact .pure (.refl before)
  | cons object objects ih =>
      simp only [Object.allFit, Bool.and_eq_true] at fits
      rw [Object.settle_cons]
      have claims := claim_ensures lawful known plain (write_ensures lawful object) fits.1 start
      refine (claims.and
        (claim_spreads lawful own known (each object List.mem_cons_self) fits.1 start)).bind ?_
      rintro ⟨id, rest⟩ middle ⟨claimed, first⟩
      refine (ih (fun other inside => each other (.tail _ inside)) fits.2
        (claimed.remaining start)).bind ?_
      rintro ⟨left, ids⟩ after later
      rw [Object.allNestings]
      exact Job.Ensures.pure (first.trans later)

end Write

section Fields

variable (lawful : model.Lawful types) (own : types.entity type.name = type) {entity : String}
  (known : model.Knows entity) {id : ObjectId}
include lawful own known

/-- A content spreads the text no more often than it nests it. -/
private theorem writeContent_spreads (start : Writable types entity id before) {field : Field}
    (inside : field ∈ (model.entity entity).fields) {content : Content}
    (each : ∀ object ∈ content.objects, SpreadsBy types model type text object)
    (fits : Object.contentFits model field content = true)
    : (Object.writeContent model field content id).Ensures before
        (fun _ after =>
          Spreads type text (· = id) (Object.contentNestings model type text field content) before
            after) := by
  cases content with
  | scalar content =>
      rw [Object.writeContent, Object.contentNestings]
      split
      · exact .pure (.refl before)
      · exact .write (.setValue id field.key _)
  | textual content =>
      rw [Object.writeContent, Object.contentNestings]
      split
      · exact .pure (.refl before)
      · cases written : content.toTextAttribute with
        | error abort =>
            obtain ⟨message, rfl⟩ := Shaped.toTextAttribute_panic written
            exact .lift_panic rfl
        | ok slot => exact .lift_bind rfl (.write (.setValue id field.key slot))
  | members present objects =>
      simp only [Object.contentFits] at fits
      split at fits
      · next target kind =>
          simp only [Bool.and_eq_true] at fits
          obtain ⟨kept, known', plain⟩ := lawful.reference known inside kind
          obtain ⟨members, answers, listed, faithful⟩ := Member.ofIds_of_stored start.forest _
            (start.members_stored lawful known inside kind)
          rw [Object.writeContent_members kind kept, Object.contentNestings, kind]
          unfold Object.reconcile
          refine Job.Ensures.get_bind (Job.Ensures.lift_bind answers ?_)
          split
          · exact .pure ((Spreads.refl before).mono (fun _ inside => inside) (Nat.zero_le _))
          · have pool := start.pool faithful listed
            refine ((settle_ensures lawful known' plain objects
              (fun object _ => write_ensures lawful object) fits.2 pool).and
              (settle_spreads lawful own known' plain objects each fits.2 pool)).bind ?_
            rintro ⟨left, ids⟩ middle ⟨settled, spreads⟩
            have apart : Spreads type text (· = id) _ before middle :=
              spreads.mono (fun _ nothing => nothing.elim) (Nat.le_refl _)
            have attached := apart.trans (.setRelated id field.key ids)
            refine .write_bind ?_
            split
            · refine .write ?_
              rw [← List.foldl_map]
              refine attached.trans (.foldl_delete (fun {x record'} found => ?_) _)
              obtain ⟨record, present, ids, _⟩ := Context.found_of_setRelated found
              exact ids.trans (settled.forest.keyed present)
            · exact .pure attached
      · contradiction

/-- Contents spread the text no more often than they nest it. -/
private theorem writeContents_spreads (fields : List Field)
    (part : fields ⊆ (model.entity entity).fields) (contents : List Content)
    (each
      : ∀ content ∈ contents, ∀ object ∈ content.objects, SpreadsBy types model type text object)
    (fits : Object.contentsFit model fields contents = true)
    (start : Writable types entity id before)
    : (Object.writeContents model fields contents id).Ensures before
        (fun _ after =>
          Spreads type text (· = id) (Object.contentsNestings model type text fields contents) before
            after) := by
  induction fields generalizing contents before with
  | nil =>
      cases contents with
      | nil => exact .pure (.refl before)
      | cons content contents => simp [Object.contentsFit] at fits
  | cons field fields ih =>
      cases contents with
      | nil => simp [Object.contentsFit] at fits
      | cons content contents =>
          obtain ⟨inside, part⟩ := List.cons_subset.mp part
          simp only [Object.contentsFit, Bool.and_eq_true] at fits
          have first := each content List.mem_cons_self
          rw [Object.writeContents, Object.contentsNestings]
          refine ((writeContent_ensures lawful known start inside
            (fun object _ => write_ensures lawful object) fits.1).and
            (writeContent_spreads lawful own known start inside first fits.1)).bind ?_
          rintro _ middle ⟨written, spreads⟩
          refine (ih part contents (fun other listed => each other (List.mem_cons_of_mem _ listed))
            fits.2 (start.confined written.forest written.confined)).mono (fun _ after later => ?_)
          exact spreads.trans later

omit known in
/-- Apart from the record that it is written to, an object spreads a text no more often than it nests it.
Witness: induction on the object; only a relation inserts records, one for each of its objects at most.
-/
theorem write_spreads (object : Object) : SpreadsBy types model type text object := by
  induction object using Object.induction with
  | step contents each =>
      intro entity id context known fits start
      rw [Object.write, Object.nestings]
      rw [Object.fits] at fits
      exact writeContents_spreads lawful own known _ (List.Subset.refl _) contents each fits start

end Fields

-----------------------------------------------------------------------------------------
-- Writing a batch
-----------------------------------------------------------------------------------------

/-- How many objects of the type with the identifier are nested in the objects of a batch. -/
def Object.nestedIn (model : Model) (type : EntityType) (text entity : String) : List Object → Nat
  | [] => 0
  | object :: objects =>
      object.nestings model type text entity + nestedIn model type text entity objects

section Batch

variable (lawful : model.Lawful types) (own : types.entity type.name = type) {root : EntityType}
  (inside : root ∈ model.entities) (identifiable : root.isIdentifiable = true)
include lawful inside identifiable

/-- An object of a batch has the identifier where it is looked up under it. -/
private theorem isNamed_iff {object : Object} (fits : object.fits model root = true)
    : object.isNamed model type text root.name = true
      ↔ root.name = type.name ∧ text = root.identifier object := by
  rw [Object.isNamed, lawful.identity inside identifiable fits, Bool.and_eq_true, decide_eq_true_eq,
    decide_eq_true_eq, Option.some.injEq, eq_comm (a := text)]

/-- Once an object without a record has got a new one, the new record is the one that is known for its
identifier. It counts where it carries the text, and where it does not nothing else is known for the text.
-/
private theorem new_spreads {object : Object} (fits : object.fits model root = true)
    {known : Table String ObjectId} (missing : known.get? (root.identifier object) = none)
    {id : ObjectId} {count more : Nat} {counts : Bool}
    (first : Spreads type text (· = id) count before middle)
    (only
      : Carries middle.record? type text id → object.isNamed model type text root.name = true)
    (later
      : let known' := known.insert (root.identifier object) id
        Spreads type text (fun x => root.name = type.name ∧ known'.get? text = some x)
          ((counts && (known'.get? text).isNone).toNat + more) middle after)
    : Spreads type text (fun x => root.name = type.name ∧ known.get? text = some x)
        (((object.isNamed model type text root.name || counts) && (known.get? text).isNone).toNat
          + (count + more))
        before after := by
  have named : object.isNamed model type text root.name = true ↔ _ :=
    isNamed_iff lawful inside identifiable fits
  cases holds : object.isNamed model type text root.name with
  | true =>
      obtain ⟨same, rfl⟩ := named.mp holds
      have later : Spreads type (root.identifier object) (· = id) _ middle after :=
        later.mono (fun x known => ?_) (Nat.le_refl _)
      · have both : Spreads type _ (fun _ => False) (true.toNat + _) before after :=
          (first.trans later).count_one (fun _ => Or.inr rfl)
        refine both.mono (fun _ nothing => nothing.elim) ?_
        rw [missing, Table.get?_insert, if_pos rfl]
        simp
      · obtain ⟨_, known⟩ := known
        rw [Table.get?_insert, if_pos rfl] at known
        exact (Option.some.inj known).symm
  | false =>
      have unnamed : ¬ (root.name = type.name ∧ text = root.identifier object) :=
        fun both => Bool.eq_false_iff.mp holds (named.mpr both)
      refine (Spreads.trans (first.except (fun carries => ?_)) later).mono ?_ ?_
      · exact absurd (only carries) (Bool.eq_false_iff.mp holds)
      · rintro x ⟨same, known⟩
        have apart : text ≠ root.identifier object := fun own => unnamed ⟨same, own⟩
        rw [Table.get?_insert, if_neg apart] at known
        exact ⟨same, known⟩
      · rw [Bool.false_or, Table.get?_insert]
        split
        · simp
        · omega

variable (text)
include own

/-- Apart from the record that is known for the text, a batch spreads it to no more records than it nests
objects of it, and one more if it names an object of it that no record is known for.
Witness: induction on the objects of the batch.
-/
private theorem upsertAll_spreads (objects : List Object)
    (fits : ∀ object ∈ objects, object.fits model root = true) {known : Table String ObjectId}
    (addressed : Addressed root known before) (sound : Sound types before)
    : (Object.upsertAll model root objects known).Ensures before
        (fun _ after =>
          Spreads type text (fun x => root.name = type.name ∧ known.get? text = some x)
            ((objects.any (·.isNamed model type text root.name) && (known.get? text).isNone).toNat
              + Object.nestedIn model type text root.name objects)
            before after) := by
  induction objects generalizing before known with
  | nil => exact .pure (.refl before)
  | cons object objects ih =>
      have knows : model.Knows root.name := lawful.knows inside
      have fit : object.fits model (model.entity root.name) = true := by
        rw [lawful.named root inside]
        exact fits object List.mem_cons_self
      have spreads : SpreadsBy types model type text object := write_spreads lawful own object
      have rest : ∀ other ∈ objects, other.fits model root = true :=
        fun other listed => fits other (List.mem_cons_of_mem object listed)
      rw [Object.nestedIn, List.any_cons]
      cases found : known.get? (root.identifier object) with
      | some id =>
          rw [Object.upsertAll_of_found found]
          obtain ⟨given, typed⟩ := addressed found
          refine (spreads.step lawful own knows fit (sound.writable given typed)).bind ?_
          rintro _ middle ⟨written, first, only⟩
          refine (ih rest (addressed.confined written.confined)
            (sound.confined written.forest written.confined)).mono (fun _ after later => ?_)
          refine (Spreads.trans (first.except (fun carries => ?_)) later).mono
            (fun _ inside => inside) ?_
          · obtain ⟨same, rfl⟩ := (isNamed_iff lawful inside identifiable
              (fits object List.mem_cons_self)).mp (only carries)
            exact ⟨same, found⟩
          · cases object.isNamed model type text root.name <;>
              cases objects.any (·.isNamed model type text root.name) <;>
              cases (known.get? text).isNone <;> simp <;> omega
      | none =>
          rw [Object.upsertAll_of_missing found]
          refine (Job.insert_ensures before root.name).bind (fun id fresh inserted => ?_)
          refine (spreads.step lawful own knows fit (inserted.writable sound.forest)).bind ?_
          rintro _ middle ⟨written, spreads, only⟩
          have added := Added.of_written lawful knows sound.forest inserted written
          have first := spreads.of_inserted inserted
          refine (ih rest (addressed.insert _ added)
            (sound.confined added.forest added.confined)).mono (fun _ after later => ?_)
          exact new_spreads lawful inside identifiable (fits object List.mem_cons_self) found first
            only later

/-- A batch spreads the text to no more records than it nests objects of it, and one more if it names an
object of it and no record carries it yet.
Witness: whatever carries the text is found before anything is written.
-/
theorem upsert_spreads (objects : List Object)
    (fits : ∀ object ∈ objects, object.fits model root = true) (sound : Sound types before)
    : (Object.upsert model root objects).Ensures before
        (fun _ after =>
          ∃ extra ≤ (objects.any (·.isNamed model type text root.name)).toNat,
            ((∃ x, Carries before.record? type text x) → extra = 0)
            ∧ Spreads type text (fun _ => False)
                (extra + Object.nestedIn model type text root.name objects) before after) := by
  have forest := sound.forest
  have shared : root.name = type.name → root = type := fun same => by
    rw [← lawful.shared root inside, same, own]
  have resolved {id : ObjectId}
      : (root.found objects before).get? text = some id
        ↔ text ∈ objects.map root.identifier ∧ Resolves before root text id :=
    found_get?_iff lawful inside identifiable forest.keyed
  have addressed : Addressed root (root.found objects before) before :=
    found_addressed lawful inside identifiable forest objects
  refine .get_bind ((upsertAll_spreads text lawful own inside identifiable objects fits addressed
    sound).mono ?_)
  intro _ after spreads
  refine ⟨_, ?_, ?_, spreads.cover ?_⟩
  · cases objects.any (·.isNamed model type text root.name) with
    | false => exact Nat.le_refl _
    | true => exact Bool.toNat_le _
  · rintro ⟨x, carries⟩
    rw [Bool.toNat_eq_zero, Bool.and_eq_false_iff, or_iff_not_imp_left, Bool.not_eq_false,
      List.any_eq_true]
    rintro ⟨object, listed, named⟩
    obtain ⟨same, rfl⟩ := (isNamed_iff lawful inside identifiable (fits object listed)).mp named
    obtain rfl := shared same
    obtain ⟨id, resolves⟩ := carries.exists_resolves forest
    have known := resolved.mpr ⟨List.mem_map_of_mem listed, resolves⟩
    exact congrArg Option.isNone known
  · rintro x ⟨same, known⟩
    exact shared same ▸ (resolved.mp known).2.1

end Batch

-----------------------------------------------------------------------------------------
-- Types that are not nested
-----------------------------------------------------------------------------------------

namespace Object

variable {entity target : String}

/-- There are none among objects of another type, if none are nested in them. -/
private theorem allNestings_eq_zero (other : target ≠ type.name) (objects : List Object)
    (each : ∀ object ∈ objects, object.nestings model type text target = 0)
    : allNestings model type text target objects = 0 := by
  induction objects with
  | nil => rw [allNestings]
  | cons object objects ih =>
      obtain ⟨first, rest⟩ := List.forall_mem_cons.mp each
      rw [allNestings, first, ih rest, isNamed, decide_eq_false other]
      rfl

/-- There are none in the content of an entity that does not refer to the type, if none are nested in its
members. -/
private theorem contentNestings_eq_zero {field : Field}
    (inside : field ∈ (model.entity entity).fields)
    (unreferred : ¬ model.Refers entity type.name) {content : Content}
    (each : ∀ object ∈ content.objects, ∀ target, object.nestings model type text target = 0)
    : contentNestings model type text field content = 0 := by
  cases content with
  | scalar content => rw [contentNestings]
  | textual content => rw [contentNestings]
  | members present objects =>
      rw [contentNestings]
      split
      · next target kind =>
          have refers : model.Refers entity target := ⟨field, inside, kind⟩
          have other : target ≠ type.name := fun same => unreferred (same ▸ refers)
          exact allNestings_eq_zero other objects (fun object listed => each object listed target)
      · rfl

/-- There are none in the contents of such an entity, if none are nested in their members. -/
private theorem contentsNestings_eq_zero (unreferred : ¬ model.Refers entity type.name)
    (fields : List Field) (part : fields ⊆ (model.entity entity).fields) (contents : List Content)
    (each
      : ∀ content ∈ contents, ∀ object ∈ content.objects, ∀ target,
          object.nestings model type text target = 0)
    : contentsNestings model type text fields contents = 0 := by
  induction fields generalizing contents with
  | nil =>
      rw [contentsNestings]
      simp
  | cons field fields ih =>
      cases contents with
      | nil =>
          rw [contentsNestings]
          simp
      | cons content contents =>
          obtain ⟨inside, part⟩ := List.cons_subset.mp part
          obtain ⟨first, rest⟩ := List.forall_mem_cons.mp each
          rw [contentsNestings, contentNestings_eq_zero inside unreferred first,
            ih part contents rest]

variable (unreferred : ∀ source, ¬ model.Refers source type.name)
include unreferred

/-- Objects of a type that no field refers to are not nested.
Witness: induction on the object.
-/
theorem nestings_of_unreferred (object : Object) (entity : String)
    : object.nestings model type text entity = 0 := by
  induction object using Object.induction generalizing entity with
  | step contents each =>
      rw [nestings]
      exact contentsNestings_eq_zero (unreferred entity) _ (List.Subset.refl _) contents each

theorem nestedIn_of_unreferred (entity : String) (objects : List Object)
    : nestedIn model type text entity objects = 0 := by
  induction objects with
  | nil => rfl
  | cons object objects ih => rw [nestedIn, ih, nestings_of_unreferred unreferred]

end Object

end EntityStore
