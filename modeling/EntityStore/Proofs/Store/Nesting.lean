import EntityStore.Proofs.Batch.Nesting
import EntityStore.Proofs.Store.Effect

/-! How many records carry an identifier.
Batches of objects keep the records of an identifier to one as long as the objects with it are not nested
in others. Each object that is nested can add a record, because a relation looks for the record of the
object among its own members only.
-/

namespace EntityStore

variable {store : Store} {type : EntityType} {text : String}

-----------------------------------------------------------------------------------------
-- From spreading to counting
-----------------------------------------------------------------------------------------

section Counting

variable {before after : Context}

/-- Where nothing carries a text there are no carriers. -/
theorem Context.carriers_of_none (keyed : Keyed before.record?)
    (none : ¬ ∃ id, Carries before.record? type text id)
    : before.carriers type text = 0 := by
  refine Context.carriers_eq_length keyed type text List.nodup_nil (fun id => ?_)
  rw [iff_false_left List.not_mem_nil]
  exact fun carries => none ⟨id, carries⟩

/-- Contexts with the same records have the same number of carriers. -/
theorem Context.carriers_congr (keyed : Keyed before.record?)
    (same : ∀ id, after.record? id = before.record? id)
    : after.carriers type text = before.carriers type text := by
  obtain ⟨ids, distinct, listed, length⟩ := before.exists_carriers keyed type text
  have keyed' : Keyed after.record? := fun {id record} found => keyed ((same id).symm.trans found)
  rw [← length]
  refine Context.carriers_eq_length keyed' type text distinct (fun id => ?_)
  rw [listed, Carries, Carries, same]

/-- A text that spreads to so many records has at most so many more carriers. -/
theorem Spreads.carriers_le {count : Nat}
    (spreads : Spreads type text (fun _ => False) count before after)
    (keyed : Keyed before.record?) (keyed' : Keyed after.record?)
    : after.carriers type text ≤ before.carriers type text + count := by
  obtain ⟨fresh, few, carried⟩ := spreads
  obtain ⟨ids, _, listed, length⟩ := before.exists_carriers keyed type text
  obtain ⟨ids', distinct, listed', length'⟩ := after.exists_carriers keyed' type text
  have part : ids' ⊆ ids ++ fresh := by
    intro id inside
    rw [List.mem_append, listed]
    exact carried id not_false ((listed' id).mp inside)
  have shorter := (List.subperm_of_subset distinct part).length_le
  rw [List.length_append] at shorter
  omega

end Counting

-----------------------------------------------------------------------------------------
-- Calls
-----------------------------------------------------------------------------------------

namespace Call

/-- The call upserts an object of the type with the identifier. -/
def names (type : EntityType) (text : String) : Call → Bool
  | addOrUpdate batch =>
      batch.objects.any (·.isNamed batch.service.model type text batch.type.name)
  | _ => false

/-- How many objects of the type with the identifier the call nests in the objects that it upserts. -/
def nestings (type : EntityType) (text : String) : Call → Nat
  | addOrUpdate batch =>
      Object.nestedIn batch.service.model type text batch.type.name batch.objects
  | _ => 0

/-- How many of them several calls nest. -/
def allNestings (type : EntityType) (text : String) : List Call → Nat
  | [] => 0
  | call :: calls => call.nestings type text + allNestings type text calls

theorem allNestings_eq_zero {calls : List Call}
    (none : ∀ call ∈ calls, call.nestings type text = 0)
    : allNestings type text calls = 0 := by
  induction calls with
  | nil => rfl
  | cons call calls ih =>
      obtain ⟨first, rest⟩ := List.forall_mem_cons.mp none
      rw [allNestings, first, ih rest]

/-- No call nests objects of a type that no field refers to. -/
theorem nestings_of_unreferred
    (unreferred : ∀ (service : Service) source, ¬ service.model.Refers source type.name)
    (call : Call)
    : call.nestings type text = 0 := by
  cases call with
  | addOrUpdate batch =>
      exact Object.nestedIn_of_unreferred (unreferred batch.service) batch.type.name batch.objects
  | _ => rfl

end Call

/-- A store has at most so many carriers of a text after a job, if it had and if the job leaves at most so
many. -/
private theorem Store.run_carriers_le {α : Type} {job : Job α} {most : Nat}
    (given : store.view.carriers type text ≤ most)
    (leaves
      : ∀ {answer after},
          job store.view = .ok (answer, after)
          → Sound Service.types after
            ∧ after.committed = store.records
            ∧ after.carriers type text ≤ most)
    : (store.run job).2.2.view.carriers type text ≤ most := by
  cases running : store.running with
  | false =>
      rw [Store.run, if_neg (by simp [running])]
      exact given
  | true =>
      cases answers : job store.view with
      | ok result =>
          obtain ⟨later, committed, few⟩ := leaves answers
          obtain ⟨records, _⟩ := Store.run_of_answer running answers committed
          rwa [Context.carriers_congr (fun {_ _} found => later.forest.keyed found) records]
      | error abort =>
          rw [Store.run, if_pos running, answers]
          cases abort <;> exact given

/-- A call leaves no more carriers of a text than there were, or than the one that it upserts, apart from
those that it nests. -/
theorem Store.call_carriers_le (sound : Sound Service.types store.view)
    (own : Service.types.entity type.name = type) (text : String) (call : Call)
    : (store.call call).view.carriers type text
      ≤ max (store.view.carriers type text) (call.names type text).toNat
        + call.nestings type text := by
  have given
      : store.view.carriers type text
        ≤ max (store.view.carriers type text) (call.names type text).toNat
          + call.nestings type text := by omega
  have keyed : Keyed store.view.record? := fun found => sound.forest.keyed found
  cases call with
  | addOrUpdate batch =>
      rw [Store.call_batch]
      split
      · exact given
      · refine Store.run_carriers_le given (fun {_ after} answers => ?_)
        have upserts := (batch.ensures sound).elim answers
        obtain ⟨extra, few, carried, spreads⟩ := (upsert_spreads text batch.service.lawful own
          batch.known batch.identifiable batch.objects batch.typed sound).elim answers
        have later := upserts.sound sound
        refine ⟨later, upserts.confined.committed, ?_⟩
        have most := spreads.carriers_le keyed later.forest.keyed
        simp only [Call.names, Call.nestings]
        by_cases some : ∃ id, Carries store.view.record? type text id
        · rw [carried some] at most
          omega
        · rw [Context.carriers_of_none keyed some] at most ⊢
          omega
  | deleteAll query =>
      refine Store.run_carriers_le given (fun {_ after} answers => ?_)
      cases answers
      let ids := (store.view.matching query.entityName query.filter).map (·.id)
      have later : Sound Service.types (ids.foldl Context.delete store.view) :=
        sound.foldl_delete ids
      have few
          : (ids.foldl Context.delete store.view).carriers type text
            ≤ store.view.carriers type text :=
        (Spreads.foldl_delete keyed ids).carriers_le keyed later.forest.keyed
      exact ⟨later, (pruned_foldl_delete ids store.view sound.forest).frame.committed,
        Nat.le_trans few given⟩
  | fetch query =>
      refine Store.run_carriers_le given (fun {_ after} answers => ?_)
      obtain rfl := Query.after_of_fetch answers
      exact ⟨sound, rfl, given⟩
  | subscribe subscription =>
      simp only [Store.call, Store.subscribe]
      split
      · split <;> exact given
      · exact given
  | unsubscribe id => exact given

/-- Several calls leave no more carriers of a text than there were, or than the one that they upsert, apart
from those that they nest.
Witness: induction on the calls.
-/
theorem Store.after_carriers_le (sound : Sound Service.types store.view)
    (own : Service.types.entity type.name = type) (text : String) (calls : List Call)
    : (store.after calls).view.carriers type text
      ≤ max (store.view.carriers type text) (calls.any (·.names type text)).toNat
        + Call.allNestings type text calls := by
  induction calls generalizing store with
  | nil => exact Nat.le_max_left ..
  | cons call calls ih =>
      have first := Store.call_carriers_le sound own text call
      have rest := ih (sound.call call)
      have named
          : (call.names type text || calls.any (·.names type text)).toNat
            = max (call.names type text).toNat (calls.any (·.names type text)).toNat := by
        cases call.names type text <;> cases calls.any (·.names type text) <;> rfl
      rw [List.any_cons, Call.allNestings, named]
      change ((store.call call).after calls).view.carriers type text ≤ _
      omega

-----------------------------------------------------------------------------------------
-- Unique identifiers
-----------------------------------------------------------------------------------------

/-- No field refers to authors or to animals. -/
theorem Service.unreferred (root : type = Library.author ∨ type = Zoo.animal) (service : Service)
    (source : String)
    : ¬ service.model.Refers source type.name := by
  intro refers
  have highest : ∀ name, level name ≤ 3 := by
    intro name
    unfold level
    split_ifs <;> omega
  have top : level type.name = 3 ∧ type.name ≠ Zoo.keeper.name := by
    rcases root with rfl | rfl <;> decide
  rcases service.level_of_refers refers with below | ⟨_, same⟩
  · have := highest source
    omega
  · exact top.2 same

/-- On a store that has seen any calls since it had no records, further calls leave no more records of an
entity type with an identifier than there were, or than the one that they upsert, apart from one for each
object with it that they nest in another one. So where there is one at most, there is still one at most
unless such an object is nested; and for a type that no field refers to there is always one at most.
Witness: a batch finds the record of an object by its identifier, a relation among its members only.
-/
theorem identifiers_spread_by_nesting (empty : store.records = .empty) {service : Service}
    (known : type ∈ service.model.entities) (text : String) (earlier later : List Call)
    : let carriers (calls : List Call) := (store.after calls).view.carriers type text
      carriers (earlier ++ later)
        ≤ max (carriers earlier) (later.any (·.names type text)).toNat
          + Call.allNestings type text later
      ∧ (carriers earlier ≤ 1
        → (∀ call ∈ later, call.nestings type text = 0)
        → carriers (earlier ++ later) ≤ 1)
      ∧ ((∀ (service : Service) source, ¬ service.model.Refers source type.name)
        → carriers (earlier ++ later) ≤ 1) := by
  intro carriers
  have own : Service.types.entity type.name = type := service.lawful.shared type known
  have bound (earlier later : List Call)
      : carriers (earlier ++ later)
        ≤ max (carriers earlier) (later.any (·.names type text)).toNat
          + Call.allNestings type text later := by
    have split : store.after (earlier ++ later) = (store.after earlier).after later :=
      List.foldl_append
    change (store.after (earlier ++ later)).view.carriers type text ≤ _
    rw [split]
    exact Store.after_carriers_le (.after empty earlier) own text later
  have unnested (earlier later : List Call) (few : carriers earlier ≤ 1)
      (plain : ∀ call ∈ later, call.nestings type text = 0)
      : carriers (earlier ++ later) ≤ 1 := by
    have most := bound earlier later
    have single := Bool.toNat_le (later.any (·.names type text))
    rw [Call.allNestings_eq_zero plain] at most
    omega
  refine ⟨bound earlier later, unnested earlier later, fun unreferred => ?_⟩
  have none : carriers [] = 0 := by
    have sound : Sound Service.types store.view := .of_empty empty
    refine Context.carriers_of_none sound.forest.keyed ?_
    rintro ⟨id, record, _, found, _⟩
    change store.records.get? id = some record at found
    rw [empty] at found
    contradiction
  exact unnested [] (earlier ++ later) (by omega)
    (fun call _ => call.nestings_of_unreferred unreferred)

/-- A book of one author is still one book after another author has come with another book, and there is
one author of an identifier in any case.
-/
theorem book_of_one_author
    : let store := Store.opened Library.model.schema
      let earlier : List Call := [.addOrUpdate (Library.authorOf "a1" ["b"] (by decide +kernel))]
      let later : List Call :=
        [.addOrUpdate (Library.authorOf "a2" ["c"] (by decide +kernel)),
          .deleteAll (Library.longBooks 100)]
      store.records = .empty
      ∧ Library.book ∈ Library.model.entities
      ∧ Library.author ∈ Library.model.entities
      ∧ (store.after earlier).view.carriers Library.book "b" = 1
      ∧ (∀ call ∈ later, call.nestings Library.book "b" = 0)
      ∧ (store.after (earlier ++ later)).view.carriers Library.book "b" ≤ 1
      ∧ (store.after (earlier ++ later)).view.carriers Library.author "a1" ≤ 1 := by
  intro store earlier later
  have book : Library.book ∈ Service.library.model.entities := by decide
  have author : Library.author ∈ Service.library.model.entities := by decide
  have empty : store.records = .empty := rfl
  have one : (store.after earlier).view.carriers Library.book "b" = 1 := by decide +kernel
  have plain : ∀ call ∈ later, call.nestings Library.book "b" = 0 := by decide +kernel
  have single := (identifiers_spread_by_nesting empty book "b" earlier later).2.1
    (Nat.le_of_eq one) plain
  have always := (identifiers_spread_by_nesting empty author "a1" earlier later).2.2
    (Service.unreferred (Or.inl rfl))
  exact ⟨empty, book, author, one, plain, single, always⟩

/-- Two authors who each come with a book of one identifier leave two books that carry it. -/
theorem book_of_two_authors
    : let calls : List Call :=
        [.addOrUpdate (Library.authorOf "a1" ["b"] (by decide +kernel)),
          .addOrUpdate (Library.authorOf "a2" ["b"] (by decide +kernel))]
      (∀ call ∈ calls, call.isChange = true)
      ∧ Library.book ∈ Library.model.entities
      ∧ Library.book.isIdentifiable = true
      ∧ ((Store.opened Library.model.schema).after calls).view.carriers Library.book "b" = 2 :=
  ⟨by decide +kernel, by decide, rfl, by decide +kernel⟩

end EntityStore
