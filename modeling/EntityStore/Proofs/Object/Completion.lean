import EntityStore.Proofs.Object.Stored

/-! Complete records hold objects.
A record of an object has every attribute that its type stores. In a forest the converse holds for
types of members: where every record of a tree has its attributes, the tree holds an object.
-/

namespace EntityStore

variable {types model : Model} {context : Context}

namespace Object

/-- A record that holds contents has the attributes of their fields. -/
theorem ContentsStored.encodes {source : RecordSource} {record : Record} (fields : List Field)
    (contents : List Content) (stored : ContentsStored model source record fields contents)
    : ∀ field ∈ fields, field.skipped = false → field.Encodes (record.value? field.key) := by
  induction fields generalizing contents with
  | nil => exact fun field inside => absurd inside List.not_mem_nil
  | cons head fields ih =>
      cases contents with
      | nil => exact absurd stored (by simp [ContentsStored])
      | cons content contents =>
          simp only [ContentsStored] at stored
          intro field inside kept
          rcases List.mem_cons.mp inside with rfl | inside
          · have first := stored.1
            rw [if_neg (by simp [kept])] at first
            cases content with
            | scalar content =>
                obtain ⟨type, kind, shape, admits, slot⟩ := by simpa only [ContentStored] using first
                simp only [Field.Encodes, kind]
                exact ⟨content, shape, admits, slot⟩
            | textual content =>
                obtain ⟨type, kind, shape, admits, slot⟩ := by simpa only [ContentStored] using first
                simp only [Field.Encodes, kind]
                exact ⟨content, shape, admits, slot⟩
            | members present objects =>
                obtain ⟨target, kind, _⟩ := by simpa only [ContentStored] using first
                simp only [Field.Encodes, kind]
          · exact ih contents stored.2 field inside kept

/-- A record of a stored object is complete. -/
theorem Stored.complete (lawful : model.Lawful types) {entity : String}
    (known : model.Knows entity) {object : Object} {id : ObjectId}
    (stored : Stored model context.record? entity object id)
    : ¬ Incomplete types context id := by
  intro incomplete
  obtain ⟨record, found, lacking⟩ := incomplete
  cases object with
  | mk contents =>
      obtain ⟨record', found', typed, held⟩ := by simpa only [Stored] using stored
      rw [found] at found'
      cases found'
      refine lacking (fun field inside kept => ?_)
      rw [typed, lawful.entity_eq known] at inside
      exact held.encodes _ _ field inside kept

end Object

/-- Everything that is reached from the identifier along at least one relation is complete. -/
def Tidy (types : Model) (context : Context) (id : ObjectId) : Prop :=
  ∀ x, Below context.record? id x → ¬ Incomplete types context x

theorem Tidy.member {owner member : ObjectId} (tidy : Tidy types context owner)
    (link : Linked context.record? owner member)
    : Tidy types context member :=
  fun x path => tidy x (.head link path)

/-- A tree stays tidy on a way that is confined: what is below an older identifier afterwards was
below it before, or is new and complete.
-/
theorem Tidy.confined {touched : ObjectId → Prop} {after : Context}
    (forest : Forest types context) (confined : Confined types touched context after)
    {id : ObjectId} (tidy : Tidy types context id)
    : Tidy types after id := by
  intro x path lacking
  obtain ⟨record, found, _⟩ := confined.incomplete lacking
  exact tidy x (confined.below forest (forest.bounded found) path) (confined.incomplete lacking)

/-- Where each identifier holds an object there are objects for all of them. -/
private theorem exists_allStored {source : RecordSource} {target : String} (ids : List ObjectId)
    (each : ∀ id ∈ ids, ∃ object, Object.Stored model source target object id)
    : ∃ objects, Object.AllStored model source target objects ids := by
  induction ids with
  | nil => exact ⟨[], by simp only [Object.AllStored]⟩
  | cons id ids ih =>
      obtain ⟨object, first⟩ := each id List.mem_cons_self
      obtain ⟨objects, rest⟩ := ih (fun other inside => each other (List.mem_cons_of_mem id inside))
      exact ⟨object :: objects, by simp only [Object.AllStored]; exact ⟨first, rest⟩⟩

section Exists

variable (lawful : model.Lawful types) (forest : Forest types context)
include lawful forest

/-- A complete record holds the content of each field, provided that its members hold objects. -/
private theorem exists_contentStored {entity : String} (known : model.Knows entity)
    (plain : (model.entity entity).Plain) {id : ObjectId} {record : Record}
    (found : context.record? id = some record) (typed : record.entity = entity) {field : Field}
    (inside : field ∈ (model.entity entity).fields)
    (encodes : field.Encodes (record.value? field.key))
    (members
      : ∀ target,
          field.kind = .reference target
          → ∀ member ∈ record.related field.key,
              ∃ object, Object.Stored model context.record? target object member)
    : ∃ content, Object.ContentStored model context.record? record field content := by
  cases kind : field.kind with
  | scalar type =>
      obtain ⟨content, shape, admits, slot⟩ := by simpa only [Field.Encodes, kind] using encodes
      refine ⟨.scalar content, ?_⟩
      simp only [Object.ContentStored]
      exact ⟨type, kind, shape, admits, slot⟩
  | textual type =>
      obtain ⟨content, shape, admits, slot⟩ := by simpa only [Field.Encodes, kind] using encodes
      refine ⟨.textual content, ?_⟩
      simp only [Object.ContentStored]
      exact ⟨type, kind, shape, admits, slot⟩
  | reference target =>
      obtain ⟨objects, held⟩ := exists_allStored _ (members target kind)
      refine ⟨.members true objects, ?_⟩
      simp only [Object.ContentStored]
      refine ⟨target, kind, trivial, ?_, held⟩
      have loose := plain.optional field inside target (Field.target?_eq_some.mpr kind)
      cases list : field.shape.list with
      | true => simp [Object.membersFit, list]
      | false =>
          have optional : field.shape.optional = true := by
            cases optional : field.shape.optional with
            | true => rfl
            | false =>
                refine absurd ?_ loose
                cases shape : field.shape
                simp_all [Shape.one]
          have few := forest.single found (by rwa [typed, lawful.entity_eq known]) list
          rw [← (Object.allStored_iff.mp held).length_eq] at few
          simp [Object.membersFit, list, optional, few]

private theorem exists_contentsStored {entity : String} (known : model.Knows entity)
    (plain : (model.entity entity).Plain) {id : ObjectId} {record : Record}
    (found : context.record? id = some record) (typed : record.entity = entity)
    (complete : record.Complete types)
    (members
      : ∀ field ∈ (model.entity entity).fields,
          ∀ target,
            field.kind = .reference target
            → ∀ member ∈ record.related field.key,
                ∃ object, Object.Stored model context.record? target object member)
    (fields : List Field) (part : fields ⊆ (model.entity entity).fields)
    : ∃ contents, Object.ContentsStored model context.record? record fields contents := by
  induction fields with
  | nil => exact ⟨[], by simp only [Object.ContentsStored]⟩
  | cons field fields ih =>
      obtain ⟨inside, part⟩ := List.cons_subset.mp part
      obtain ⟨contents, rest⟩ := ih part
      cases kept : field.skipped with
      | true =>
          refine ⟨field.defaultContent :: contents, ?_⟩
          simp only [Object.ContentsStored, kept, if_true]
          exact ⟨trivial, rest⟩
      | false =>
          have encodes := complete field (by rwa [typed, lawful.entity_eq known]) kept
          obtain ⟨content, first⟩ := exists_contentStored lawful forest known plain found typed
            inside encodes (members field inside)
          refine ⟨content :: contents, ?_⟩
          simp only [Object.ContentsStored, kept, Bool.false_eq_true, if_false]
          exact ⟨first, rest⟩

/-- In a forest a complete record of a plain type holds an object, if everything below it is complete.
Witness: induction downwards along ranks, which the next identifier bounds.
-/
theorem Forest.exists_stored {entity : String} (known : model.Knows entity)
    (plain : (model.entity entity).Plain) {id : ObjectId} {record : Record}
    (found : context.record? id = some record) (typed : record.entity = entity)
    (complete : ¬ Incomplete types context id) (tidy : Tidy types context id)
    : ∃ object, Object.Stored model context.record? entity object id := by
  generalize height : context.nextId.toNat - id.rank = n
  induction n using Nat.strongRecOn generalizing id entity record with
  | ind n ih =>
      have complete : record.Complete types :=
        Classical.byContradiction (fun lacking => complete ⟨record, found, lacking⟩)
      have members : ∀ field ∈ (model.entity entity).fields, ∀ target,
          field.kind = .reference target
          → ∀ member ∈ record.related field.key,
              ∃ object, Object.Stored model context.record? target object member := by
        intro field inside target kind member held
        have link : Linked context.record? id member := ⟨field.key, record, found, held⟩
        obtain ⟨other, listed, same, target', kind', live, found', typed'⟩ :=
          forest.declared found held
        rw [typed, lawful.entity_eq known] at listed
        obtain rfl := lawful.key_inj known listed inside same
        rw [kind] at kind'
        cases kind'
        obtain ⟨_, known', plain'⟩ := lawful.reference known inside kind
        have older := forest.increasing link
        have bound := forest.bounded found'
        exact ih (context.nextId.toNat - member.rank) (by omega) known' plain' found' typed'
          (tidy member (.single link)) (tidy.member link) rfl
      obtain ⟨contents, held⟩ := exists_contentsStored lawful forest known plain found typed
        complete members _ (List.Subset.refl _)
      refine ⟨.mk contents, ?_⟩
      simp only [Object.Stored]
      exact ⟨record, found, typed, held⟩

end Exists

end EntityStore
