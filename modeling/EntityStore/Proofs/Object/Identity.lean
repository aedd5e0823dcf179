import EntityStore.Proofs.Batch.Lookup
import EntityStore.Proofs.Object.ReadBack

/-! How objects are told apart.
An object of an identifiable type has an identifier, comes back with it, and is stored in a record that
carries it. An object of any other plain type comes back as it is, and equals itself.
-/

namespace EntityStore.Object

variable {types model : Model} {source : RecordSource} {entity text : String}

-----------------------------------------------------------------------------------------
-- Identifying contents
-----------------------------------------------------------------------------------------

/-- The content that identifies an object, with its field. -/
private def identifying? (fields : List Field) (contents : List Content)
    : Option (Field × Content) :=
  (fields.zip contents).find? (fun pair => pair.1.isId)

/-- The content of an identifier. -/
private def identifierContent (text : String) : Content :=
  .scalar (.one (.string text))

private theorem identifierText?_eq_some {content : Content}
    : identifierText? content = some text ↔ content = identifierContent text := by
  unfold identifierText?
  split <;> simp_all [identifierContent]

private theorem identity?_eq_some {type : EntityType} {contents : List Content}
    : (Object.mk contents).identity? type = some text
      ↔ ∃ field, identifying? type.fields contents = some (field, identifierContent text) := by
  change (identifying? type.fields contents).bind (fun pair => identifierText? pair.2) = _ ↔ _
  simp only [Option.bind_eq_some_iff, Prod.exists, identifierText?_eq_some]
  constructor
  · intro given
    obtain ⟨field, content, found, rfl⟩ := given
    exact ⟨field, found⟩
  · intro given
    obtain ⟨field, found⟩ := given
    exact ⟨field, _, found, rfl⟩

/-- The identifying content belongs to the identifying field. -/
private theorem field_of_identifying {fields : List Field} {contents : List Content} {field : Field}
    {content : Content} (found : identifying? fields contents = some (field, content))
    : fields.find? (·.isId) = some field := by
  induction fields generalizing contents with
  | nil => cases found
  | cons head fields ih =>
      cases contents with
      | nil => cases found
      | cons first contents =>
          rw [identifying?, List.zip_cons_cons, List.find?_cons] at found
          rw [List.find?_cons]
          cases isId : head.isId with
          | true =>
              simp only [isId] at found
              cases found
              rfl
          | false =>
              simp only [isId] at found
              exact ih found

/-- One text is the content of an identifier. -/
private theorem eq_identifierContent {content : Shaped Scalar} (shape : content.shape = .one)
    (admits : content.items.all ScalarType.string.admits = true)
    : ∃ text, .scalar content = identifierContent text := by
  cases content with
  | one item =>
      simp only [Shaped.items, List.all_cons, List.all_nil, Bool.and_true] at admits
      cases item with
      | string text => exact ⟨text, rfl⟩
      | integer i => simp [ScalarType.admits, ScalarType.fits, ScalarType.range?] at admits
      | _ => simp [ScalarType.admits] at admits
  | _ => simp [Shaped.shape, Shape.one, Shape.option, Shape.many, Shape.optionMany] at shape

/-- Contents that fit have an identifier where their fields have one. -/
private theorem identifying_of_fit {fields : List Field} {contents : List Content}
    (texts
      : ∀ field ∈ fields, field.isId = true → field.shape = .one ∧ field.kind = .scalar .string)
    (fits : contentsFit model fields contents = true)
    (identifiable : (fields.find? (·.isId)).isSome = true)
    : ∃ field text, identifying? fields contents = some (field, identifierContent text) := by
  induction fields generalizing contents with
  | nil => cases identifiable
  | cons head fields ih =>
      cases contents with
      | nil => simp [contentsFit] at fits
      | cons first contents =>
          simp only [contentsFit, Bool.and_eq_true] at fits
          simp only [identifying?, List.zip_cons_cons, List.find?_cons]
          rw [List.find?_cons] at identifiable
          cases isId : head.isId with
          | true =>
              obtain ⟨shape, kind⟩ := texts head List.mem_cons_self isId
              have fit := fits.1
              cases first with
              | scalar content =>
                  simp only [contentFits, kind, Bool.and_eq_true, decide_eq_true_eq] at fit
                  obtain ⟨text, same⟩ := eq_identifierContent (fit.1.trans shape) fit.2
                  exact ⟨head, text, by simp only [same]⟩
              | textual content => simp [contentFits, kind] at fit
              | members present objects => simp [contentFits, kind] at fit
          | false =>
              simp only [isId] at identifiable
              exact ih (fun field inside => texts field (List.mem_cons_of_mem _ inside)) fits.2
                identifiable

/-- Contents that are stored have an identifier where their fields have one. -/
private theorem identifying_of_stored {fields : List Field} {contents : List Content} {record : Record}
    (texts
      : ∀ field ∈ fields,
          field.isId = true
          → field.skipped = false ∧ field.shape = .one ∧ field.kind = .scalar .string)
    (stored : ContentsStored model source record fields contents)
    (identifiable : (fields.find? (·.isId)).isSome = true)
    : ∃ field text, identifying? fields contents = some (field, identifierContent text) := by
  induction fields generalizing contents with
  | nil => cases identifiable
  | cons head fields ih =>
      obtain ⟨content, contents, rfl, first, rest⟩ := contentsStored_cons.mp stored
      simp only [identifying?, List.zip_cons_cons, List.find?_cons]
      rw [List.find?_cons] at identifiable
      cases isId : head.isId with
      | true =>
          obtain ⟨kept, shape, kind⟩ := texts head List.mem_cons_self isId
          rw [FieldStored, if_neg (by simp [kept])] at first
          cases content with
          | scalar content =>
              obtain ⟨type, kind', shape', admits, _⟩ := by simpa only [ContentStored] using first
              obtain rfl : type = .string := by simpa [kind] using kind'.symm
              obtain ⟨text, same⟩ := eq_identifierContent (shape'.trans shape) admits
              exact ⟨head, text, by simp only [same]⟩
          | textual content => simp [ContentStored, kind] at first
          | members present objects => simp [ContentStored, kind] at first
      | false =>
          simp only [isId] at identifiable
          exact ih (fun field inside => texts field (List.mem_cons_of_mem _ inside)) rest identifiable

/-- The identifier comes back. -/
private theorem identifying_readsBack {fields : List Field} {writtens reads : List Content}
    {field : Field} (kept : ∀ field ∈ fields, field.isId = true → field.skipped = false)
    (back : ContentsReadBack model fields writtens reads)
    (found : identifying? fields writtens = some (field, identifierContent text))
    : identifying? fields reads = some (field, identifierContent text) := by
  induction fields generalizing writtens reads with
  | nil => cases found
  | cons head fields ih =>
      obtain ⟨written, writtens, read, reads, rfl, rfl, first, back⟩ :=
        contentsReadBack_cons.mp back
      simp only [identifying?, List.zip_cons_cons, List.find?_cons] at found ⊢
      cases isId : head.isId with
      | true =>
          simp only [isId, Option.some.injEq, Prod.mk.injEq] at found
          obtain ⟨rfl, rfl⟩ := found
          rw [FieldReadsBack, if_neg (by simp [kept head List.mem_cons_self isId])] at first
          simp only [identifierContent, ContentReadsBack] at first
          rw [first]
          rfl
      | false =>
          simp only [isId] at found
          exact ih (fun field inside => kept field (List.mem_cons_of_mem _ inside)) back found

/-- The identifier is stored. -/
private theorem identifying_stored {fields : List Field} {contents : List Content}
    {record : Record} {field : Field}
    (kept : ∀ field ∈ fields, field.isId = true → field.skipped = false)
    (stored : ContentsStored model source record fields contents)
    (found : identifying? fields contents = some (field, identifierContent text))
    : record.value? field.key = some (.string text) := by
  induction fields generalizing contents with
  | nil => cases found
  | cons head fields ih =>
      obtain ⟨content, contents, rfl, first, stored⟩ := contentsStored_cons.mp stored
      simp only [identifying?, List.zip_cons_cons, List.find?_cons] at found
      cases isId : head.isId with
      | true =>
          simp only [isId, Option.some.injEq, Prod.mk.injEq] at found
          obtain ⟨rfl, rfl⟩ := found
          rw [FieldStored, if_neg (by simp [kept head List.mem_cons_self isId])] at first
          obtain ⟨_, _, _, _, slot⟩ := by simpa only [identifierContent, ContentStored] using first
          rw [slot]
          rfl
      | false =>
          simp only [isId] at found
          exact ih (fun field inside => kept field (List.mem_cons_of_mem _ inside)) stored found

-----------------------------------------------------------------------------------------
-- Identities
-----------------------------------------------------------------------------------------

/-- An object with an identifier is of an identifiable type. -/
theorem identifiable_of_identity {type : EntityType} {object : Object}
    (identity : object.identity? type = some text)
    : type.isIdentifiable = true := by
  cases object with
  | mk contents =>
      obtain ⟨field, found⟩ := identity?_eq_some.mp identity
      rw [EntityType.isIdentifiable, EntityType.idField?, field_of_identifying found]
      rfl

section Identity

variable (lawful : model.Lawful types) (known : model.Knows entity)
include lawful known

/-- An object of an identifiable type has an identifier. -/
theorem exists_identity (identifiable : (model.entity entity).isIdentifiable = true)
    {object : Object} (fits : object.fits model (model.entity entity) = true)
    : ∃ text, object.identity? (model.entity entity) = some text := by
  cases object with
  | mk contents =>
      simp only [Object.fits] at fits
      obtain ⟨field, text, found⟩ := identifying_of_fit
        (fun field inside isId =>
          have identifies := lawful.identifiers _ known field inside isId
          ⟨identifies.2.1, identifies.2.2.1⟩)
        fits identifiable
      exact ⟨text, identity?_eq_some.mpr ⟨field, found⟩⟩

/-- What an object comes back as has its identifier. -/
theorem ReadsBack.identity {written read : Object} (back : ReadsBack model entity written read)
    (identity : written.identity? (model.entity entity) = some text)
    : read.identity? (model.entity entity) = some text := by
  cases written with
  | mk writtens =>
      cases read with
      | mk reads =>
          simp only [ReadsBack] at back
          obtain ⟨field, found⟩ := identity?_eq_some.mp identity
          exact identity?_eq_some.mpr ⟨field, identifying_readsBack
            (fun field inside isId => (lawful.identifiers _ known field inside isId).1) back found⟩

/-- A stored object of a type with identifiers has one. -/
theorem Stored.exists_identity (identifiable : (model.entity entity).isIdentifiable = true)
    {object : Object} {id : ObjectId} (stored : Stored model source entity object id)
    : ∃ text, object.identity? (model.entity entity) = some text := by
  cases object with
  | mk contents =>
      obtain ⟨record, _, _, held⟩ := by simpa only [Stored] using stored
      obtain ⟨field, text, found⟩ := identifying_of_stored
        (fun field inside isId =>
          have identifies := lawful.identifiers _ known field inside isId
          ⟨identifies.1, identifies.2.1, identifies.2.2.1⟩)
        held identifiable
      exact ⟨text, identity?_eq_some.mpr ⟨field, found⟩⟩

/-- The record of a stored object carries its identifier. -/
theorem Stored.carries {object : Object} {id : ObjectId}
    (stored : Stored model source entity object id)
    (identity : object.identity? (model.entity entity) = some text)
    : Carries source (model.entity entity) text id := by
  cases object with
  | mk contents =>
      obtain ⟨record, found, typed, held⟩ := by simpa only [Stored] using stored
      obtain ⟨field, identifies⟩ := identity?_eq_some.mp identity
      refine ⟨record, field, found, typed.trans (model.entity_name entity).symm,
        field_of_identifying identifies, ?_⟩
      exact identifying_stored
        (fun field inside isId => (lawful.identifiers _ known field inside isId).1) held identifies

/-- What an object comes back as has no other identifier. -/
theorem ReadsBack.identity_eq {written read : Object}
    (fits : written.fits model (model.entity entity) = true)
    (back : ReadsBack model entity written read)
    : read.identity? (model.entity entity) = written.identity? (model.entity entity) := by
  cases identity : written.identity? (model.entity entity) with
  | some text => exact back.identity lawful known identity
  | none =>
      cases other : read.identity? (model.entity entity) with
      | none => rfl
      | some text =>
          obtain ⟨text, same⟩ := exists_identity lawful known (identifiable_of_identity other) fits
          rw [identity] at same
          contradiction

/-- What objects come back as has their identifiers. -/
theorem AllReadBack.identities {writtens reads : List Object}
    (fits : allFit model (model.entity entity) writtens = true)
    (backs : AllReadBack model entity writtens reads)
    : reads.filterMap (·.identity? (model.entity entity))
      = writtens.filterMap (·.identity? (model.entity entity)) := by
  induction writtens generalizing reads with
  | nil =>
      cases reads with
      | nil => rfl
      | cons read reads => simp [AllReadBack] at backs
  | cons written writtens ih =>
      cases reads with
      | nil => simp [AllReadBack] at backs
      | cons read reads =>
          simp only [allFit, Bool.and_eq_true] at fits
          simp only [AllReadBack] at backs
          rw [List.filterMap_cons, List.filterMap_cons, ih fits.2 backs.2,
            backs.1.identity_eq lawful known fits.1]

end Identity

-----------------------------------------------------------------------------------------
-- Objects without an identifier
-----------------------------------------------------------------------------------------

/-- Contents of fields that are stored and hold no members come back as they are. -/
private theorem contents_readBack_eq {fields : List Field} {writtens reads : List Content}
    (bare : ∀ field ∈ fields, field.skipped = false ∧ field.target? = none)
    (back : ContentsReadBack model fields writtens reads)
    : reads = writtens := by
  induction fields generalizing writtens reads with
  | nil =>
      obtain ⟨rfl, rfl⟩ := contentsReadBack_nil.mp back
      rfl
  | cons head fields ih =>
      obtain ⟨written, writtens, read, reads, rfl, rfl, first, back⟩ :=
        contentsReadBack_cons.mp back
      obtain ⟨kept, single⟩ := bare head List.mem_cons_self
      rw [FieldReadsBack, if_neg (by simp [kept])] at first
      rw [ih (fun field inside => bare field (List.mem_cons_of_mem _ inside)) back]
      congr 1
      cases written with
      | scalar content => simpa only [ContentReadsBack] using first
      | textual content => simpa only [ContentReadsBack] using first
      | members present objects =>
          obtain ⟨target, _, _, kind, _⟩ := by simpa only [ContentReadsBack] using first
          rw [← Field.target?_eq_some, single] at kind
          contradiction

/-- Contents of fields that are stored and hold neither members nor floating point numbers equal
themselves.
-/
private theorem contents_equal_self {fields : List Field} {contents : List Content}
    {record : Record} (bare : ∀ field ∈ fields, field.skipped = false ∧ field.target? = none)
    (exact : ∀ field ∈ fields, field.kind ≠ .scalar .float32 ∧ field.kind ≠ .scalar .float64)
    (stored : ContentsStored model source record fields contents)
    : contentsEqual contents contents = true := by
  induction fields generalizing contents with
  | nil =>
      obtain rfl := contentsStored_nil.mp stored
      simp only [contentsEqual]
  | cons head fields ih =>
      obtain ⟨content, contents, rfl, first, stored⟩ := contentsStored_cons.mp stored
      obtain ⟨kept, single⟩ := bare head List.mem_cons_self
      rw [FieldStored, if_neg (by simp [kept])] at first
      simp only [contentsEqual, Bool.and_eq_true]
      refine ⟨?_, ih (fun field inside => bare field (List.mem_cons_of_mem _ inside))
        (fun field inside => exact field (List.mem_cons_of_mem _ inside)) stored⟩
      cases content with
      | scalar content =>
          obtain ⟨type, kind, _, admits, _⟩ := by simpa only [ContentStored] using first
          obtain ⟨narrow, wide⟩ := exact head List.mem_cons_self
          simp only [contentEqual]
          refine (ScalarType.agree_iff ?_ ?_ admits).mpr rfl
          · intro same
            obtain rfl := same
            exact narrow kind
          · intro same
            obtain rfl := same
            exact wide kind
      | textual content =>
          simp only [contentEqual]
          exact Textual.agree_iff.mpr rfl
      | members present objects =>
          obtain ⟨target, kind, _⟩ := by simpa only [ContentStored] using first
          rw [← Field.target?_eq_some, single] at kind
          contradiction

/-- An object of a plain type without an identifier comes back as it is. -/
theorem ReadsBack.eq_of_bare (plain : (model.entity entity).Plain)
    (anonymous : (model.entity entity).isIdentifiable = false) {written read : Object}
    (back : ReadsBack model entity written read)
    : read = written := by
  cases written with
  | mk writtens =>
      cases read with
      | mk reads =>
          simp only [ReadsBack] at back
          rw [contents_readBack_eq (plain.bare anonymous) back]

/-- A stored object of a plain type without an identifier equals itself. -/
theorem Stored.equals_self (plain : (model.entity entity).Plain)
    (anonymous : (model.entity entity).isIdentifiable = false) {object : Object} {id : ObjectId}
    (stored : Stored model source entity object id)
    : equals object object = true := by
  cases object with
  | mk contents =>
      obtain ⟨record, _, _, held⟩ := by simpa only [Stored] using stored
      rw [equals]
      exact contents_equal_self (plain.bare anonymous) plain.exact held

end EntityStore.Object
