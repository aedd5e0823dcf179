import EntityStore.Proofs.Store.Repeat
import EntityStore.Proofs.Write.Kept

/-! The members of a store's relations that are kept.
Whatever a store has been called with, a relation keeps members that its new objects equal. An object
with the identifier of another one can take such a member before that one does.
-/

namespace EntityStore

variable {store : Store}

/-- After any calls on a store that started without records, bringing any relation of a live record to hold
any objects keeps members that they equal: of the members that equal some object, as many as there are
equal objects, less the rivals that come before one of these. Where no identifier comes twice none is
taken away. What is kept stays a member, and its tree stays as it is. Only giving up keeps it from that.
Witness: every claim leaves the trees of the other members as they are.
-/
theorem equal_members_kept (empty : store.records = .empty) (calls : List Call) (service : Service)
    {type : EntityType} (known : type ∈ service.model.entities) {field : Field}
    (inside : field ∈ type.fields) {target : String} (kind : field.kind = .reference target)
    {owner : ObjectId} {record : Record} (found : (store.after calls).view.record? owner = some record)
    (typed : record.entity = type.name) {objects : List Object}
    (fits : Object.allFit service.model (service.model.entity target) objects = true) (deleteOld : Bool)
    : let view := (store.after calls).view
      ∃ members,
        Member.ofIds service.model target view (view.related owner field.key) = .ok members
        ∧ members.map (·.id) = view.related owner field.key
        ∧ (Object.storeMany service.model target owner field.key objects deleteOld).Ensures view
            (fun _ after =>
              ∀ x : Object,
                let equals := objects.countP (·.equals x)
                let equal := members.countP (Member.equals x)
                let rivals := x.rivalsBefore (service.model.entity target) objects
                KeepsAlike x (min equals (equal - rivals)) members owner field.key view after
                ∧ ((objects.filterMap (·.identity? (service.model.entity target))).Nodup
                  → KeepsAlike x (min equals equal) members owner field.key view after)) := by
  intro view
  have sound := Sound.after empty calls
  have lawful := service.lawful
  have start : Writable Service.types type.name owner view := sound.writable_live found typed
  have inside : field ∈ (service.model.entity type.name).fields := by
    rwa [lawful.named type known]
  obtain ⟨members, answers, listed, keeps⟩ :=
    reconcile_keeps lawful (lawful.knows known) start inside kind found fits true deleteOld
  refine ⟨members, answers, listed, keeps.mono (fun _ after kept x => ⟨kept x, fun distinct => ?_⟩)⟩
  have kept := kept x
  rwa [x.rivalsBefore_eq_zero distinct, Nat.sub_zero] at kept

namespace Library

/-- A book like the others, but with a title. -/
private def entitled (id title : String) : Object :=
  .mk
    [.scalar (.one (.string id)),
      .scalar (.one (.string title)),
      .scalar (.one (.integer 0)),
      .scalar (.many []),
      .scalar (.option none),
      .scalar (.option none),
      .textual (.one (.format .ebook))]

/-- An author whose only book has no title yet is stored. -/
private def published : Context :=
  ((Store.opened model.schema).after [.addOrUpdate (authorOf "w" ["b"] (by decide +kernel))]).view

private theorem published_members
    : Member.ofIds model book.name published (published.related ⟨1⟩ "books")
      = .ok [⟨⟨2⟩, some (bookOf "b")⟩] := by
  rfl

/-- The author is to have some books. -/
private def publish (books : List Object) : Job Unit :=
  Object.storeMany model book.name ⟨1⟩ "books" books true

/-- What can be told of the context that a run ends in is told of a run. -/
private theorem exists_published {books : List Object} (told : Context → Bool)
    (ends : (publish books published).toOption.any (fun result => told result.2) = true)
    : ∃ after, publish books published = .ok ((), after) ∧ told after = true := by
  cases run : publish books published with
  | error abort => simp [run, Except.toOption] at ends
  | ok result => exact ⟨result.2, rfl, by simpa [run, Except.toOption] using ends⟩

/-- A book with a title takes the record of the book that the next one equals: although the book without a
title is a member and is to be one, no member that equals it is kept.
-/
theorem untitled_book_lost
    : let books := [entitled "b" "Silence", bookOf "b"]
      let members := [⟨⟨2⟩, some (bookOf "b")⟩]
      Member.ofIds model book.name published (published.related ⟨1⟩ "books") = .ok members
      ∧ books.countP (·.equals (bookOf "b")) = 1
      ∧ members.countP (Member.equals (bookOf "b")) = 1
      ∧ ∃ after,
          publish books published = .ok ((), after)
          ∧ ¬ KeepsAlike (bookOf "b") 1 members ⟨1⟩ "books" published after := by
  intro books members
  refine ⟨published_members, by decide +kernel, by decide +kernel, ?_⟩
  obtain ⟨after, ends, lost⟩ :
      ∃ after,
        publish books published = .ok ((), after)
        ∧ decide (after.record? ⟨2⟩ ≠ published.record? ⟨2⟩) = true :=
    exists_published _ (by decide +kernel)
  refine ⟨after, ends, ?_⟩
  rintro ⟨kept, sub, some, each⟩
  obtain ⟨member, inside⟩ := List.exists_mem_of_length_pos some
  obtain rfl := List.mem_singleton.mp (sub.subset inside)
  exact of_decide_eq_true lost ((each _ inside).2.2 ⟨2⟩ .refl)

/-- A book with a title that comes after the one without, or under another identifier, leaves it its record.
-/
theorem untitled_book_kept
    : let books := [bookOf "b", entitled "b" "Silence"]
      let others := [entitled "c" "Silence", bookOf "b"]
      let members := [⟨⟨2⟩, some (bookOf "b")⟩]
      Member.ofIds model book.name published (published.related ⟨1⟩ "books") = .ok members
      ∧ (bookOf "b").rivalsBefore book books = 0
      ∧ (others.filterMap (·.identity? book)).Nodup
      ∧ (∃ after,
        publish books published = .ok ((), after)
        ∧ KeepsAlike (bookOf "b") 1 members ⟨1⟩ "books" published after)
      ∧ ∃ after,
          publish others published = .ok ((), after)
          ∧ KeepsAlike (bookOf "b") 1 members ⟨1⟩ "books" published after := by
  intro books others members
  have empty : (Store.opened model.schema).records = .empty := rfl
  have known : author ∈ Service.library.model.entities := by decide
  have inside : Field.new "books" .many (.reference book.name) ∈ author.fields := by decide
  obtain ⟨record, found, typed⟩ : ∃ record,
      published.record? ⟨1⟩ = some record ∧ record.entity = author.name :=
    ⟨_, rfl, rfl⟩
  let alike (objects : List Object) := objects.countP (·.equals (bookOf "b"))
  let held := members.countP (Member.equals (bookOf "b"))
  have keeps (objects : List Object) (fits : Object.allFit model book objects = true)
      (answers : (publish objects published).toOption.any (fun _ => true) = true)
      : ∃ after,
          publish objects published = .ok ((), after)
          ∧ KeepsAlike (bookOf "b") (min (alike objects) (held - (bookOf "b").rivalsBefore book objects))
            members ⟨1⟩ "books" published after
          ∧ ((objects.filterMap (·.identity? book)).Nodup
            → KeepsAlike (bookOf "b") (min (alike objects) held) members ⟨1⟩ "books" published after) := by
    obtain ⟨_, told, _, ensures⟩ :=
      equal_members_kept empty _ .library known inside rfl found typed fits true
    obtain rfl := Except.ok.inj (published_members.symm.trans told)
    obtain ⟨after, ends, _⟩ := exists_published (fun _ => true) answers
    exact ⟨after, ends, ensures.elim ends (bookOf "b")⟩
  have apart : (bookOf "b").rivalsBefore book books = 0 := by decide +kernel
  have distinct : (others.filterMap (·.identity? book)).Nodup := by decide +kernel
  refine ⟨published_members, apart, distinct, ?_, ?_⟩
  · obtain ⟨after, ends, kept, _⟩ := keeps books (by decide +kernel) (by decide +kernel)
    have count : min (alike books) (held - (bookOf "b").rivalsBefore book books) = 1 := by decide +kernel
    exact ⟨after, ends, count ▸ kept⟩
  · obtain ⟨after, ends, _, kept⟩ := keeps others (by decide +kernel) (by decide +kernel)
    have count : min (alike others) held = 1 := by decide +kernel
    exact ⟨after, ends, count ▸ kept distinct⟩

end Library

end EntityStore
