import EntityStore.Proofs.Batch.Secure
import EntityStore.Proofs.Service.Keeper
import Mathlib.Data.List.Dedup

/-! Batches that lose an identifier.
A batch of keepers without apprentices takes away whatever is below the records that its identifiers
resolve to. Where a list of identifiers is not secure, such a batch loses one of them.
-/

namespace EntityStore

variable {types : Model} {before middle after : Context} {type : EntityType} {text : String}
  {id root : ObjectId} {cut cut' : ObjectId → Prop}

/-- The way from one context to a later one cuts down the trees of some roots: what was below one of them
is gone, and what is left is held by what held it and carries what it carried.
-/
structure Trims (types : Model) (type : EntityType) (cut : ObjectId → Prop)
    (before after : Context)
    : Prop where
  confined : Confined types (fun _ => True) before after
  frame : Context.SameFrame before after
  linked
    : ∀ {owner member},
        Linked before.record? owner member
        → (∃ record, after.record? member = some record)
        → Linked after.record? owner member
  carries
    : ∀ {text id},
        (∃ record, after.record? id = some record)
        → (Carries after.record? type text id ↔ Carries before.record? type text id)
  takes : ∀ {root id}, cut root → Below before.record? root id → after.record? id = none

namespace Trims

/-- Nothing at all cuts down the trees of roots that nothing is below. -/
theorem refl (context : Context) (bare : ∀ {root id}, cut root → ¬ Below context.record? root id)
    : Trims types type cut context context :=
  { confined := .refl _ _
    frame := .refl _
    linked := fun link _ => link
    carries := fun _ => Iff.rfl
    takes := fun chosen below => absurd below (bare chosen) }

/-- What is left comes from a record of its identifier. -/
theorem survivor (trims : Trims types type cut before after) (forest : Forest types after)
    (live : ∃ record, after.record? id = some record)
    : ∃ record, before.record? id = some record := by
  obtain ⟨record', found⟩ := live
  have old := forest.bounded found
  rw [trims.frame.nextId] at old
  obtain ⟨record, present, _⟩ := trims.confined.survivor old found
  exact ⟨record, present⟩

/-- What is left below a root is still below it. -/
theorem below (trims : Trims types type cut before after)
    (path : Below before.record? root id) (live : ∃ record, after.record? id = some record)
    : Below after.record? root id := by
  induction path with
  | single link => exact .single (trims.linked link live)
  | tail _ link ih =>
      have kept := trims.linked link live
      obtain ⟨key, record, found, held⟩ := kept
      exact (ih ⟨record, found⟩).tail ⟨key, record, found, held⟩

/-- Cutting down the trees of some roots and then those of others cuts down the trees of all of them.
Witness: what the first way leaves below a root of the second one is still below it.
-/
theorem trans (forest : Forest types after)
    (first : Trims types type cut before middle) (second : Trims types type cut' middle after)
    : Trims types type (fun root => cut root ∨ cut' root) before after := by
  refine { confined := first.confined.trans second.confined (fun _ _ _ => trivial)
           frame := first.frame.trans second.frame
           linked := fun link live => second.linked (first.linked link ?_) live
           carries := fun live => (second.carries live).trans (first.carries ?_)
           takes := ?_ }
  · exact second.survivor forest live
  · exact second.survivor forest live
  · intro root id chosen path
    cases found : after.record? id with
    | none => rfl
    | some record =>
        obtain ⟨record', present⟩ := second.survivor forest ⟨record, found⟩
        rcases chosen with chosen | chosen
        · rw [first.takes chosen path] at present
          contradiction
        · rw [second.takes chosen (first.below path ⟨record', present⟩)] at found
          contradiction

end Trims

/-- An object that is written over a record, and that takes away everything below it, cuts its tree down. -/
theorem Trims.of_written {model : Model} (lawful : model.Lawful types) (inside : type ∈ model.entities)
    (identifiable : type.isIdentifiable = true) {object : Object}
    (fits : object.fits model type = true) (forest : Forest types before)
    (written : Written types model type.name object id before after)
    (frame : Context.SameFrame before after)
    (takes : ∀ x, Below before.record? id x → after.record? x = none)
    (carried
      : ∀ {record},
          before.record? id = some record
          → Carries before.record? type (type.identifier object) id)
    : Trims types type (· = id) before after := by
  have same {x : ObjectId} (live : ∃ record, after.record? x = some record) (other : x ≠ id)
      : after.record? x = before.record? x := by
    obtain ⟨record, found⟩ := live
    have old := written.forest.bounded found
    rw [frame.nextId] at old
    refine written.confined.frame old (fun path => ?_)
    rcases Relation.reflTransGen_iff_eq_or_transGen.mp path with same | below
    · exact other same
    · rw [takes x below] at found
      contradiction
  refine { confined := written.confined.mono (fun _ _ _ => trivial)
           frame
           linked := ?_
           carries := ?_
           takes := fun chosen below => takes _ (chosen ▸ below) }
  · intro owner member link given
    obtain ⟨key, record, found, held⟩ := link
    obtain ⟨record', live⟩ := given
    have link : Linked before.record? owner member := ⟨key, record, found, held⟩
    have untouched : ¬ Reaches before.record? id owner := by
      intro path
      rw [takes member (.tail' path link)] at live
      contradiction
    exact ⟨key, record,
      (written.confined.frame (forest.bounded found) untouched).trans found, held⟩
  · intro text x live
    by_cases here : x = id
    · subst here
      obtain ⟨record', found'⟩ := live
      have old := written.forest.bounded found'
      rw [frame.nextId] at old
      obtain ⟨record, found, _⟩ := written.confined.survivor old found'
      obtain ⟨read, back, stored⟩ := written.result found
      have own := lawful.carries inside identifiable fits back stored
      exact ⟨fun carries => own.unique carries ▸ carried found,
        fun carries => (carried found).unique carries ▸ own⟩
    · exact ⟨.congr (same live here).symm, .congr (same live here)⟩

namespace Zoo

variable {known : Table String ObjectId} {context : Context}

/-- Each of the identifiers is known for a keeper that was given out, and that carries it while its
record is there.
-/
def AllKnown (known : Table String ObjectId) (context : Context) (texts : List String) : Prop :=
  ∀ text ∈ texts, ∃ id,
    known.get? text = some id
    ∧ id.rank < context.nextId.toNat
    ∧ ∀ {record}, context.record? id = some record → Carries context.record? keeper text id

/-- What cuts down trees leaves the identifiers known. -/
theorem AllKnown.trimmed {cut : ObjectId → Prop} {later : Context} {texts : List String}
    (all : AllKnown known context texts) (forest : Forest Service.types later)
    (trims : Trims Service.types keeper cut context later)
    : AllKnown known later texts := by
  intro text listed
  obtain ⟨id, found, given, carried⟩ := all text listed
  refine ⟨id, found, by rwa [trims.frame.nextId], fun {record} live => ?_⟩
  obtain ⟨record', present⟩ := trims.survivor forest ⟨record, live⟩
  exact (trims.carries ⟨record, live⟩).mpr (carried present)

/-- A keeper without apprentices that is written over a keeper cuts down its tree. -/
theorem leaf_trims {id : ObjectId} (sound : Sound Service.types context)
    (schema : context.schema.entity? keeper.name = some keeper.descriptor) (text : String)
    (given : id.rank < context.nextId.toNat)
    (carried
      : ∀ {record}, context.record? id = some record → Carries context.record? keeper text id)
    : ∃ after,
        Object.write model keeper.name (keeperOf text []) id context = .ok ((), after)
        ∧ Sound Service.types after
        ∧ Trims Service.types keeper (· = id) context after := by
  have lawful := Service.lawful_zoo
  have inside : keeper ∈ model.entities := by decide
  have fits : (keeperOf text []).fits model keeper = true := keeperOf_fits text rfl
  have writable : Writable Service.types keeper.name id context := by
    refine sound.writable given (fun {record} present => ?_)
    obtain ⟨record', present', typed⟩ := (carried present).live
    obtain rfl : record = record' := Option.some.inj (present.symm.trans present')
    exact typed
  obtain ⟨after, answers, frame, takes⟩ := leaf_written writable schema text
  have written := (write_ensures lawful (keeperOf text []) keeper.name id context
    (lawful.knows inside) fits writable).elim answers
  exact ⟨after, answers, sound.confined written.forest written.confined,
    .of_written lawful inside rfl fits sound.forest written frame takes carried⟩

/-- Keepers without apprentices are upserted over known keepers, and cut down their trees.
Witness: induction on the identifiers. A keeper that an earlier one has taken away has nothing below it.
-/
theorem upsertAll_leaves (sound : Sound Service.types context)
    (schema : context.schema.entity? keeper.name = some keeper.descriptor) (texts : List String)
    (all : AllKnown known context texts)
    : ∃ after,
        Object.upsertAll model keeper (texts.map (keeperOf · [])) known context = .ok ((), after)
        ∧ Sound Service.types after
        ∧ Trims Service.types keeper (fun id => ∃ text ∈ texts, known.get? text = some id)
            context after := by
  induction texts generalizing context with
  | nil =>
      refine ⟨context, rfl, sound, .refl context ?_⟩
      intro root id given
      obtain ⟨text, listed, _⟩ := given
      exact absurd listed List.not_mem_nil
  | cons text texts ih =>
      obtain ⟨id, found, given, carried⟩ := all text List.mem_cons_self
      obtain ⟨middle, answers, sound', first⟩ := leaf_trims sound schema text given carried
      have all' : AllKnown known middle texts :=
        AllKnown.trimmed (fun other listed => all other (.tail _ listed)) sound'.forest first
      obtain ⟨after, answers', sound'', later⟩ := ih sound' (by rwa [first.frame.schema]) all'
      refine ⟨after, ?_, sound'', ?_⟩
      · have found : known.get? (keeper.identifier (keeperOf text [])) = some id := found
        rw [List.map_cons, Object.upsertAll_of_found found, Job.bind_of_ok answers]
        exact answers'
      · have both := first.trans sound''.forest later
        refine { both with takes := ?_ }
        intro root x given path
        obtain ⟨other, listed, known'⟩ := given
        refine both.takes ?_ path
        rcases List.mem_cons.mp listed with rfl | listed
        · exact Or.inl (Option.some.inj (known'.symm.trans found))
        · exact Or.inr ⟨other, listed, known'⟩

/-- Where a list of identifiers is not secure, keepers without apprentices lose one of them.
Witness: the identifiers of the list that are carried at all, each for one keeper.
-/
theorem exists_loss (sound : Sound Service.types context)
    (schema : context.schema.entity? keeper.name = some keeper.descriptor) {texts : List String}
    (insecure : ¬ Secure context keeper texts)
    : ∃ lost ∈ texts, ∃ named ⊆ texts, ∃ after,
        named.Nodup
        ∧ lost ∈ named
        ∧ Object.upsert model keeper (named.map (keeperOf · [])) context = .ok ((), after)
        ∧ ∀ id, ¬ Carries after.record? keeper lost id := by
  classical
  simp only [Secure, not_forall, not_exists, not_and] at insecure
  obtain ⟨lost, listed, ⟨holder, carries⟩, exposed⟩ := insecure
  let named := (texts.filter (fun text => ∃ id, Carries context.record? keeper text id)).dedup
  have mem_named {text : String}
      : text ∈ named ↔ text ∈ texts ∧ ∃ id, Carries context.record? keeper text id := by
    simp only [named, List.mem_dedup, List.mem_filter, decide_eq_true_eq]
  let known := keeper.found (named.map (keeperOf · [])) context
  have identifiers : (named.map (keeperOf · [])).map keeper.identifier = named := by
    rw [List.map_map]
    exact List.map_id _
  have known_iff {text : String} {id : ObjectId}
      : known.get? text = some id ↔ text ∈ named ∧ Resolves context keeper text id := by
    have found
        : known.get? text = some id
          ↔ text ∈ (named.map (keeperOf · [])).map keeper.identifier
            ∧ Resolves context keeper text id :=
      found_get?_iff Service.lawful_zoo (by decide) rfl sound.forest.keyed
    rwa [identifiers] at found
  have all : AllKnown known context named := by
    intro text listed
    obtain ⟨_, id, carries⟩ := mem_named.mp listed
    obtain ⟨root, resolves⟩ := carries.exists_resolves sound.forest
    obtain ⟨record, found, _⟩ := resolves.1.live
    exact ⟨root, known_iff.mpr ⟨listed, resolves⟩, sound.forest.bounded found, fun _ => resolves.1⟩
  obtain ⟨after, answers, sound', trims⟩ := upsertAll_leaves sound schema named all
  refine ⟨lost, listed, named, fun text inside => (mem_named.mp inside).1, after, List.nodup_dedup _,
    mem_named.mpr ⟨listed, holder, carries⟩, (Job.bind_of_ok rfl _).trans answers, ?_⟩
  intro id carries'
  have live : ∃ record, after.record? id = some record := by
    obtain ⟨record, found, _⟩ := carries'.live
    exact ⟨record, found⟩
  obtain ⟨other, listed', root, distinct, resolves, path⟩ :=
    exposed id ((trims.carries live).mp carries')
  have named' : other ∈ named := mem_named.mpr ⟨listed', root, resolves.1⟩
  obtain ⟨record, found⟩ := live
  rw [trims.takes ⟨other, named', known_iff.mpr ⟨named', resolves⟩⟩ (not_not.mp path)] at found
  contradiction

end Zoo

end EntityStore
