import EntityStore.Derive.Storage
import EntityStore.Proofs.Derive.Declaration
import EntityStore.Proofs.Derive.Options

/-! Which fields are accepted, and what their attributes say about them.
Every attribute is taken on its own, and a problem with one of them stays. So a field is accepted
exactly if all of its attributes are, unless it would be an identifier that is not stored. But an
attribute of a relation replaces what earlier ones have said. So options that are given in different
attributes accumulate only if all but the last attribute give none that matters.
-/

namespace EntityStore.Derive

open Source RelationOption

variable {source : NamedField} {field : FieldDeclaration} {reading : FieldReading}
  {self : Attribute} {attributes : List Attribute}

-----------------------------------------------------------------------------------------
-- Types of fields
-----------------------------------------------------------------------------------------

/-- A type without one option and then one list around it. -/
def itemType (type : TypeExpr) : TypeExpr :=
  (unwrap "Vec" (unwrap "Option" type).2).2

/-- The type has a name, at the end of a path that starts with no type, which ends as those of
entities do. -/
def NamesEntity (type : TypeExpr) : Prop :=
  ∃ name, type.plainName? = some name ∧ entitySuffix.toList <:+ name.toList

private theorem kind_ofType {type : TypeExpr}
    : (FieldType.ofType type).kind = kindOf (itemType type) :=
  rfl

private theorem kindOfName_eq_string_iff {name : String}
    : kindOfName name = .scalar .string ↔ name = "String" := by
  unfold kindOfName
  constructor
  · intro same
    split_ifs at same
    split at same
    next known =>
      cases same
      unfold scalarOf? at known
      split at known <;> simp_all
    next => cases same
  · rintro rfl
    decide

/-- The items are texts exactly if their type is named so. -/
private theorem kindOf_eq_string_iff {type : TypeExpr}
    : kindOf type = .scalar .string ↔ type.plainName? = some "String" := by
  unfold kindOf
  cases type.plainName? <;> simp [kindOfName_eq_string_iff]

/-- A field is one text exactly if its type is named so. -/
theorem FieldType.isText_iff {type : TypeExpr}
    : (ofType type).scalar? = some .string ∧ (ofType type).shape = .one
      ↔ type.plainName? = some "String" := by
  have scalar : (ofType type).scalar? = some .string
      ↔ (itemType type).plainName? = some "String" := by
    rw [← kindOf_eq_string_iff, scalar?, kind_ofType]
    cases kindOf (itemType type) <;> simp
  have shape : (ofType type).shape = .one
      ↔ (unwrap "Option" type).1 = false ∧ (unwrap "Vec" (unwrap "Option" type).2).1 = false := by
    simp [ofType, Shape.one]
  have bare {wrapper : String} {type : TypeExpr} (plain : (unwrap wrapper type).1 = false)
      : (unwrap wrapper type).2 = type := by
    unfold unwrap at plain ⊢
    cases found : type.argumentOf? wrapper <;> simp_all
  rw [scalar, shape]
  constructor
  · rintro ⟨named, optional, list⟩
    rwa [itemType, bare list, bare optional] at named
  · intro named
    have plain {wrapper : String} (other : "String" ≠ wrapper)
        : unwrap wrapper type = (false, type) := by
      unfold TypeExpr.plainName? at named
      split at named
      · obtain rfl := Option.some.inj named
        simp [unwrap, TypeExpr.argumentOf?, other]
      · cases named
    simp [itemType, plain, named]

/-- A field refers to an entity exactly if that is the name of its items' type, and ends so. -/
theorem FieldType.target?_eq_some_iff {type : TypeExpr} {name : String}
    : (ofType type).target? = some name
      ↔ (itemType type).plainName? = some name ∧ entitySuffix.toList <:+ name.toList := by
  rw [target?, kind_ofType, kindOf, ← List.isSuffixOf_iff_suffix]
  cases (itemType type).plainName? with
  | none => simp
  | some found =>
      simp only [kindOfName, Option.some.injEq]
      split_ifs with suffixed
      · constructor
        · rintro ⟨rfl⟩
          exact ⟨rfl, suffixed⟩
        · rintro ⟨rfl, -⟩
          rfl
      · constructor
        · intro none
          cases scalar : scalarOf? found <;> simp [scalar] at none
        · rintro ⟨rfl, ends⟩
          exact absurd ends suffixed

/-- A field refers to an entity exactly if its items have a type that is named so. -/
theorem FieldType.isSome_target?_iff {type : TypeExpr}
    : (ofType type).target?.isSome ↔ NamesEntity (itemType type) := by
  simp only [Option.isSome_iff_exists, target?_eq_some_iff, NamesEntity]

-----------------------------------------------------------------------------------------
-- Attributes of fields
-----------------------------------------------------------------------------------------

/-- The attribute has a list of nothing but `skip`. -/
def ListsSkips (self : Attribute) : Prop :=
  ∃ contents items, self.arguments = .list contents ∧ Listed SpellsSkip contents items

/-- The attribute has a list of these options of a relation. -/
def Gives (self : Attribute) (options : List RelationOption) : Prop :=
  ∃ contents, self.arguments = .list contents ∧ Listed Spells contents options

private theorem Gives.unique {options others : List RelationOption} (gives : Gives self options)
    (gives' : Gives self others)
    : options = others := by
  obtain ⟨contents, list, listed⟩ := gives
  obtain ⟨again, same, listed'⟩ := gives'
  cases list.symm.trans same
  exact listed_unique listed listed'

/-- The attribute may stand on a field of the type. -/
structure Fits (type : TypeExpr) (attached : Attribute) : Prop where
  /-- An identifier is a text. -/
  identifier : attached.isNamed "id" → type.plainName? = some "String"
  skips : attached.isNamed "field" → ListsSkips attached
  /-- A relation leads to an entity, and none of its options is given twice. -/
  relation
    : attached.isNamed "relation"
      → NamesEntity (itemType type)
        ∧ ∃ options, Gives attached options ∧ (options.map word).Nodup

/-- The field is left out of the store by the attribute. -/
def leavesOut (self : Attribute) : Bool :=
  self.isNamed "field" && (readSkip self).toOption.getD false

/-- No attribute has two names. -/
private theorem not_isNamed {name : String} (named : self.isNamed name) (other : String)
    (different : name ≠ other)
    : self.isNamed other = false := by
  rw [Attribute.isNamed, AttributePath.isName_iff] at named
  simp [Attribute.isNamed, AttributePath.isName, named, different]

/-- An attribute is taken as what its name says. -/
private theorem take_cases (reading : FieldReading) (self : Attribute)
    : self.isNamed "id" ∧ self.isNamed "field" = false ∧ self.isNamed "relation" = false
        ∧ reading.take self = reading.takeId
      ∨ self.isNamed "id" = false ∧ self.isNamed "field" ∧ self.isNamed "relation" = false
        ∧ reading.take self = reading.takeField self
      ∨ self.isNamed "id" = false ∧ self.isNamed "field" = false ∧ self.isNamed "relation"
        ∧ reading.take self = reading.takeRelation self
      ∨ self.isNamed "id" = false ∧ self.isNamed "field" = false
        ∧ self.isNamed "relation" = false ∧ reading.take self = reading := by
  unfold FieldReading.take
  split_ifs with id field relation
  · simp [id, not_isNamed id "field" (by decide),
      not_isNamed id "relation" (by decide)]
  · simp [id, field, not_isNamed field "relation" (by decide)]
  · simp [id, field, relation]
  · simp [id, field, relation]

/-- The options of a relation that an attribute gives a field of a type. -/
private def optionsOf? (type : FieldType) (self : Attribute) : Option RelationOptions :=
  if self.isNamed "relation" ∧ type.target?.isSome then (readRelation self).toOption else none

/-- An attribute says something about the identifier, about the store, or about the relation, and
changes nothing else. -/
private theorem field_take
    : (reading.take self).field
      = { reading.field with
          isId := reading.field.isId || self.isNamed "id"
          skipped := reading.field.skipped || leavesOut self
          relation := (optionsOf? reading.field.type self).getD reading.field.relation } := by
  obtain ⟨id, field, relation, taken⟩ | ⟨id, field, relation, taken⟩ | ⟨id, field, relation, taken⟩
    | ⟨id, field, relation, taken⟩ := take_cases reading self
  · rw [taken, FieldReading.takeId]
    dsimp only
    split_ifs <;> simp [FieldReading.report, leavesOut, optionsOf?, id, field, relation]
  · rw [taken, FieldReading.takeField]
    cases skip : readSkip self <;>
      simp [FieldReading.report, leavesOut, optionsOf?, id, field, relation, skip, Except.toOption]
  · rw [taken, FieldReading.takeRelation]
    cases target : reading.field.type.target? with
    | none => simp [FieldReading.report, leavesOut, optionsOf?, id, field, relation, target]
    | some name =>
        cases read : readRelation self <;>
          simp [FieldReading.report, leavesOut, optionsOf?, id, field, relation, target, read,
            Except.toOption]
  · simp [taken, leavesOut, optionsOf?, id, field, relation]

section Taking

variable {type : TypeExpr}

private theorem problems_takeId_iff (typed : reading.field.type = .ofType type)
    : reading.takeId.problems = []
      ↔ reading.problems = [] ∧ type.plainName? = some "String" := by
  rw [← FieldType.isText_iff, ← typed]
  unfold FieldReading.takeId
  dsimp only
  split_ifs with text
  · simp [text]
  · simp [FieldReading.report, text]

private theorem problems_takeField_iff
    : (reading.takeField self).problems = [] ↔ reading.problems = [] ∧ ListsSkips self := by
  have lists : ListsSkips self ↔ ∃ skipped, readSkip self = .ok skipped := by
    simp only [readSkip_iff]
    constructor
    · rintro ⟨contents, items, list, listed⟩
      exact ⟨!contents.isEmpty, contents, items, list, listed, by simp⟩
    · rintro ⟨_, contents, items, list, listed, -⟩
      exact ⟨contents, items, list, listed⟩
  rw [lists]
  unfold FieldReading.takeField
  cases readSkip self <;> simp [FieldReading.report]

private theorem problems_takeRelation_iff (typed : reading.field.type = .ofType type)
    : (reading.takeRelation self).problems = []
      ↔ reading.problems = []
        ∧ NamesEntity (itemType type)
        ∧ ∃ options, Gives self options ∧ (options.map word).Nodup := by
  have gives : (∃ options, Gives self options ∧ (options.map word).Nodup)
      ↔ ∃ relation, readRelation self = .ok relation := by
    simp only [readRelation_iff]
    constructor
    · rintro ⟨options, ⟨contents, list, listed⟩, distinct⟩
      exact ⟨_, contents, options, list, listed, distinct, rfl⟩
    · rintro ⟨_, contents, options, list, listed, distinct, -⟩
      exact ⟨options, ⟨contents, list, listed⟩, distinct⟩
  rw [gives, ← FieldType.isSome_target?_iff, ← typed]
  unfold FieldReading.takeRelation
  cases reading.field.type.target? with
  | none => simp [FieldReading.report]
  | some target => cases readRelation self <;> simp [FieldReading.report]

/-- An attribute adds no problem exactly if it fits the type of the field. -/
private theorem problems_take_iff (typed : reading.field.type = .ofType type)
    : (reading.take self).problems = [] ↔ reading.problems = [] ∧ Fits type self := by
  have fits : Fits type self
      ↔ (self.isNamed "id" → type.plainName? = some "String")
        ∧ (self.isNamed "field" → ListsSkips self)
        ∧ (self.isNamed "relation"
          → NamesEntity (itemType type)
            ∧ ∃ options, Gives self options ∧ (options.map word).Nodup) :=
    ⟨fun ⟨identifier, skips, relation⟩ => ⟨identifier, skips, relation⟩,
      fun ⟨identifier, skips, relation⟩ => ⟨identifier, skips, relation⟩⟩
  rw [fits]
  obtain ⟨id, field, relation, taken⟩ | ⟨id, field, relation, taken⟩ | ⟨id, field, relation, taken⟩
    | ⟨id, field, relation, taken⟩ := take_cases reading self
  · simp [taken, problems_takeId_iff typed, id, field, relation]
  · simp [taken, problems_takeField_iff, id, field, relation]
  · simp [taken, problems_takeRelation_iff typed, id, field, relation]
  · simp [taken, id, field, relation]

/-- Attributes add no problem exactly if all of them fit the type of the field. -/
private theorem problems_foldl_take_iff (attributes : List Attribute)
    (typed : reading.field.type = .ofType type)
    : (attributes.foldl FieldReading.take reading).problems = []
      ↔ reading.problems = [] ∧ ∀ self ∈ attributes, Fits type self := by
  induction attributes generalizing reading with
  | nil => simp
  | cons self attributes ih =>
      rw [List.foldl_cons, ih (by rw [field_take]; exact typed), problems_take_iff typed,
        List.forall_mem_cons, and_assoc]

end Taking

/-- A field is the identifier if any of its attributes says so. -/
private theorem isId_foldl_take (attributes : List Attribute) (reading : FieldReading)
    : (attributes.foldl FieldReading.take reading).field.isId
      = (reading.field.isId || attributes.any (·.isNamed "id")) := by
  induction attributes generalizing reading with
  | nil => simp
  | cons self attributes ih => simp [ih, field_take, Bool.or_assoc]

/-- A field is left out of the store if any of its attributes leaves it out. -/
private theorem skipped_foldl_take (attributes : List Attribute) (reading : FieldReading)
    : (attributes.foldl FieldReading.take reading).field.skipped
      = (reading.field.skipped || attributes.any leavesOut) := by
  induction attributes generalizing reading with
  | nil => simp
  | cons self attributes ih => simp [ih, field_take, Bool.or_assoc]

/-- The attributes of a relation have these lists of options. -/
def GiveAll (attributes : List Attribute) (lists : List (List RelationOption)) : Prop :=
  List.Forall₂ Gives (attributes.filter (·.isNamed "relation")) lists

/-- The attributes of a relation have lists of these options only. -/
theorem GiveAll.unique {lists others : List (List RelationOption)}
    (given : GiveAll attributes lists) (given' : GiveAll attributes others)
    : lists = others := by
  have single : Relator.RightUnique Gives := fun _ _ _ gives => gives.unique
  exact single.forall₂ given given'

/-- The last list of options is what a field has. -/
private theorem relation_foldl_take {lists : List (List RelationOption)}
    (target
      : ∀ self ∈ attributes, self.isNamed "relation" → reading.field.type.target?.isSome)
    (given : GiveAll attributes lists) (distinct : ∀ options ∈ lists, (options.map word).Nodup)
    : (attributes.foldl FieldReading.take reading).field.relation
      = (lists.getLast?.map fun options => (RelationOption.given options).options).getD
          reading.field.relation := by
  induction attributes generalizing reading lists with
  | nil =>
      cases given
      rfl
  | cons self attributes ih =>
      rw [List.forall_mem_cons] at target
      have typed
          : ∀ other ∈ attributes,
              other.isNamed "relation" → (reading.take self).field.type.target?.isSome := by
        simpa [field_take] using target.2
      unfold GiveAll at given
      by_cases named : self.isNamed "relation"
      · rw [List.filter_cons, if_pos named] at given
        obtain ⟨options, lists, ⟨contents, list, listed⟩, others, rfl⟩ :=
          List.forall₂_cons_left_iff.mp given
        rw [List.forall_mem_cons] at distinct
        have read := readRelation_iff.mpr ⟨contents, options, list, listed, distinct.1, rfl⟩
        rw [List.foldl_cons, ih typed others distinct.2, field_take]
        cases last : lists.getLast? with
        | none =>
            simp [List.getLast?_cons, last, optionsOf?, named, target.1 named, read,
              Except.toOption]
        | some other => simp [List.getLast?_cons, last]
      · rw [List.filter_cons, if_neg named] at given
        rw [List.foldl_cons, ih typed given distinct, field_take]
        simp [optionsOf?, named]

-----------------------------------------------------------------------------------------
-- Fields
-----------------------------------------------------------------------------------------

/-- The declaration is one of a field. -/
structure DeclaresField (source : NamedField) : Prop where
  /-- Every attribute may stand on a field of the type. -/
  fits : ∀ self ∈ source.attributes, Fits source.type self
  /-- An identifier is stored: nothing is in the lists that could leave it out. -/
  stored
    : (∃ self ∈ source.attributes, self.isNamed "id")
      → ∀ self ∈ source.attributes, self.isNamed "field" → self.arguments = .list []

/-- A list of nothing but `skip` leaves no field out if it is empty. -/
private theorem leavesOut_eq_false_iff (lists : self.isNamed "field" → ListsSkips self)
    : leavesOut self = false ↔ (self.isNamed "field" → self.arguments = .list []) := by
  unfold leavesOut
  cases named : self.isNamed "field" with
  | false => simp
  | true =>
      obtain ⟨contents, items, list, listed⟩ := lists named
      have read : readSkip self = .ok (!contents.isEmpty) :=
        readSkip_iff.mpr ⟨contents, items, list, listed, by simp⟩
      simp [read, list, Except.toOption]

/-- A field is accepted exactly if it is declared, and is what its attributes make of it. -/
private theorem ofSource_eq_ok_iff
    : FieldDeclaration.ofSource source = .ok field
      ↔ DeclaresField source
        ∧ field = (source.attributes.foldl FieldReading.take ⟨.plain source, []⟩).field := by
  have start : (⟨.plain source, []⟩ : FieldReading).field.type = .ofType source.type := rfl
  have silent := problems_foldl_take_iff source.attributes start
  have identifies := isId_foldl_take source.attributes ⟨.plain source, []⟩
  have leaves := skipped_foldl_take source.attributes ⟨.plain source, []⟩
  unfold FieldDeclaration.ofSource
  generalize source.attributes.foldl FieldReading.take ⟨.plain source, []⟩ = reading at *
  simp only [FieldDeclaration.plain, Bool.false_or, true_and] at silent identifies leaves
  have same : reading.finish.field = reading.field := by
    unfold FieldReading.finish
    split <;> rfl
  have finished : reading.finish.problems = []
      ↔ reading.problems = [] ∧ (reading.field.isId → reading.field.skipped = false) := by
    unfold FieldReading.finish
    cases reading.field.isId <;> cases reading.field.skipped <;> simp [FieldReading.report]
  have declares : reading.finish.problems = [] ↔ DeclaresField source := by
    have stored (fits : ∀ self ∈ source.attributes, Fits source.type self)
        : source.attributes.any leavesOut = false
          ↔ ∀ self ∈ source.attributes, self.isNamed "field" → self.arguments = .list [] := by
      simp only [List.any_eq_false, Bool.not_eq_true]
      exact forall₂_congr fun self member => leavesOut_eq_false_iff (fits self member).skips
    rw [finished, silent, identifies, leaves, List.any_eq_true]
    constructor
    · rintro ⟨fits, leaves⟩
      exact ⟨fits, fun identified => (stored fits).mp (leaves identified)⟩
    · rintro ⟨fits, leaves⟩
      exact ⟨fits, fun identified => (stored fits).mpr (leaves identified)⟩
  rw [← declares]
  dsimp only
  split_ifs with none
  · rw [same]
    exact ⟨fun found => ⟨List.isEmpty_iff.mp none, (Except.ok.inj found).symm⟩,
      fun ⟨_, found⟩ => found ▸ rfl⟩
  · exact ⟨fun found => (by cases found),
      fun ⟨silent, _⟩ => absurd (List.isEmpty_iff.mpr silent) none⟩

/-- A field is accepted exactly if it is declared as one. -/
theorem FieldDeclaration.isOk_ofSource_iff
    : (∃ field, ofSource source = .ok field) ↔ DeclaresField source := by
  simp only [ofSource_eq_ok_iff]
  exact ⟨fun ⟨_, declares, _⟩ => declares, fun declares => ⟨_, declares, rfl⟩⟩

/-- An accepted field is the identifier exactly if an attribute says so. -/
theorem FieldDeclaration.isId_iff (accepted : ofSource source = .ok field)
    : field.isId ↔ ∃ self ∈ source.attributes, self.isNamed "id" := by
  rw [(ofSource_eq_ok_iff.mp accepted).2, isId_foldl_take]
  simp [plain]

/-- The attributes of an accepted relation have lists of options, each of which is given once in its
list.
Witness: induction on the attributes, each of which fits. -/
private theorem exists_giveAll (fits : ∀ self ∈ attributes, Fits source.type self)
    : ∃ lists, GiveAll attributes lists ∧ ∀ options ∈ lists, (options.map word).Nodup := by
  induction attributes with
  | nil => exact ⟨[], .nil, by simp⟩
  | cons self attributes ih =>
      rw [List.forall_mem_cons] at fits
      obtain ⟨lists, given, distinct⟩ := ih fits.2
      unfold GiveAll
      by_cases named : self.isNamed "relation"
      · obtain ⟨-, options, gives, single⟩ := fits.1.relation named
        refine ⟨options :: lists, ?_, List.forall_mem_cons.mpr ⟨single, distinct⟩⟩
        rw [List.filter_cons, if_pos named]
        exact .cons gives given
      · refine ⟨lists, ?_, distinct⟩
        rw [List.filter_cons, if_neg named]
        exact given

/-- The attributes of an accepted relation have lists of options. An option is given once in a list,
and the relation has the options of the last list. -/
theorem FieldDeclaration.relation_of_ofSource (accepted : ofSource source = .ok field)
    : ∃! lists,
        GiveAll source.attributes lists
        ∧ (∀ options ∈ lists, (options.map word).Nodup)
        ∧ field.relation = (given (lists.getLast?.getD [])).options := by
  obtain ⟨⟨fits, -⟩, same⟩ := ofSource_eq_ok_iff.mp accepted
  have target (self : Attribute) (member : self ∈ source.attributes)
      (named : self.isNamed "relation")
      : (FieldDeclaration.plain source).type.target?.isSome :=
    FieldType.isSome_target?_iff.mpr ((fits self member).relation named).1
  obtain ⟨lists, given, distinct⟩ := exists_giveAll fits
  refine ⟨lists, ⟨given, distinct, ?_⟩, fun others found => ?_⟩
  · rw [same, relation_foldl_take target given distinct]
    cases lists.getLast? <;> rfl
  · exact found.1.unique given

-----------------------------------------------------------------------------------------
-- Options that are given once
-----------------------------------------------------------------------------------------

variable {earlier last : List RelationOption}

/-- A relation is given no rule exactly if no option is one. -/
private theorem deleteRule_given_eq_none_iff {options : List RelationOption}
    : (given options).deleteRule = none ↔ ∀ rule, .deleteRule rule ∉ options := by
  rw [given, List.findSome?_eq_none_iff]
  constructor
  · intro none rule member
    cases none _ member
  · intro none option member
    cases option with
    | deleteRule rule => exact absurd member (none rule)
    | keepOrphans => rfl

/-- The rule of a relation is the one that is given, if it is given once. -/
private theorem deleteRule_given_of_mem {options : List RelationOption} {rule : DeleteRule}
    (distinct : (options.map word).Nodup) (member : .deleteRule rule ∈ options)
    : (given options).deleteRule = some rule := by
  cases found : (given options).deleteRule with
  | none => exact absurd member (deleteRule_given_eq_none_iff.mp found rule)
  | some other =>
      obtain ⟨option, member', named⟩ := List.exists_of_findSome?_eq_some found
      cases option with
      | deleteRule _ =>
          cases named
          have same := List.inj_on_of_nodup_map distinct member member' rfl
          rw [deleteRule.inj same]
      | keepOrphans => cases named

-----------------------------------------------------------------------------------------
-- Options that accumulate
-----------------------------------------------------------------------------------------

/-- The statement that writes the field to a record keeps members that leave the relation. -/
def FieldDeclaration.WritesKeeping (field : FieldDeclaration) : Prop :=
  ∃ write store members,
    field.write? = some write
    ∧ write.deleteOld = false
    ∧ FieldWrite.writeCode field.name write
      = callCode (runtime store)
          [code "context", code "object", textCode field.key, members, nameCode "false"]
        ++ code ";"

/-- The field has all options that are given, and none of them is given twice. -/
structure FieldDeclaration.Accumulates (field : FieldDeclaration) (options : List RelationOption)
    : Prop where
  distinct : (options.map word).Nodup
  rule : ∀ rule, .deleteRule rule ∈ options → field.relation.deleteRule = rule
  cascade : (∀ rule, .deleteRule rule ∉ options) → field.relation.deleteRule = .cascade
  keeps : field.relation.keepOrphans ↔ .keepOrphans ∈ options
  /-- A field that is stored is written accordingly. -/
  writes : .keepOrphans ∈ options → field.skipped = false → field.WritesKeeping

/-- A relation that keeps the members which leave it is written so. -/
private theorem FieldDeclaration.writesKeeping (target : field.type.target?.isSome)
    (keeps : field.relation.keepOrphans) (stored : field.skipped = false)
    : field.WritesKeeping := by
  have records : field.type.kind.representation = .records := by
    unfold FieldType.target? at target
    split at target
    next kind => rw [kind]; rfl
    next => cases target
  have write : field.write? = some ⟨field.key, .records, field.type.shape, false⟩ := by
    simp [write?, stored, records, keeps]
  exact ⟨_, _, FieldWrite.membersCode field.name field.type.shape, write, rfl, rfl⟩

/-- What the last list of options says is what all of them say exactly if all others say only what
holds anyway. -/
private theorem accumulates_append_iff (target : last ≠ [] → field.type.target?.isSome)
    (replaced : field.relation = (given last).options)
    : field.Accumulates (earlier ++ last)
      ↔ ((earlier ++ last).map word).Nodup ∧ ∀ option ∈ earlier, option = .deleteRule .cascade := by
  have keeps : field.relation.keepOrphans ↔ .keepOrphans ∈ last := by
    simp [replaced, given, RelationReading.options]
  have ruled : field.relation.deleteRule = (given last).deleteRule.getD .cascade := by
    rw [replaced]
    rfl
  have split : ((earlier ++ last).map word).Nodup
      → (last.map word).Nodup ∧ ∀ first ∈ earlier, ∀ second ∈ last, first.word ≠ second.word := by
    rw [List.map_append, List.nodup_append]
    rintro ⟨-, single, apart⟩
    refine ⟨single, fun first here second there => ?_⟩
    exact apart _ (List.mem_map_of_mem here) _ (List.mem_map_of_mem there)
  constructor
  · intro all
    refine ⟨all.distinct, fun option here => ?_⟩
    have apart := (split all.distinct).2 option here
    have member := List.mem_append_left last here
    cases option with
    | keepOrphans => exact absurd rfl (apart _ (keeps.mp (all.keeps.mpr member)))
    | deleteRule rule =>
        have none := deleteRule_given_eq_none_iff.mpr fun other there =>
          absurd rfl (apart (.deleteRule other) there)
        rw [← all.rule rule member, ruled, none]
        rfl
  · rintro ⟨distinct, cascades⟩
    obtain ⟨single, apart⟩ := split distinct
    have kept : .keepOrphans ∈ earlier ++ last ↔ .keepOrphans ∈ last := by
      rw [List.mem_append, or_iff_right]
      intro here
      cases cascades _ here
    refine ⟨distinct, fun rule member => ?_, fun none => ?_, keeps.trans kept.symm, ?_⟩
    · rcases List.mem_append.mp member with here | there
      · have none := deleteRule_given_eq_none_iff.mpr fun other there =>
          absurd rfl (apart _ here (.deleteRule other) there)
        rw [ruled, none, deleteRule.inj (cascades _ here)]
        rfl
      · rw [ruled, deleteRule_given_of_mem single there]
        rfl
    · rw [ruled, deleteRule_given_eq_none_iff.mpr fun rule there =>
        none rule (List.mem_append_right _ there)]
      rfl
    · intro member stored
      have inside := kept.mp member
      exact FieldDeclaration.writesKeeping (target (List.ne_nil_of_mem inside)) (keeps.mpr inside)
        stored

/-- The options of all but the last of some lists stand before those of the last one. -/
private theorem flatten_eq_dropLast_append (lists : List (List RelationOption))
    : lists.flatten = lists.dropLast.flatten ++ lists.getLast?.getD [] := by
  rcases List.eq_nil_or_concat lists with rfl | ⟨earlier, last, rfl⟩
  · rfl
  · simp

/-- Where options of a relation are given, the field refers to an entity. -/
private theorem isSome_target?_of_giveAll {lists : List (List RelationOption)}
    (accepted : FieldDeclaration.ofSource source = .ok field)
    (given : GiveAll source.attributes lists) (some : lists ≠ [])
    : field.type.target?.isSome := by
  obtain ⟨options, others, rfl⟩ := List.exists_cons_of_ne_nil some
  obtain ⟨self, rest, -, -, same⟩ := List.forall₂_cons_right_iff.mp given
  have member := List.mem_filter.mp (same ▸ List.mem_cons_self : self ∈ source.attributes.filter _)
  have declares := FieldDeclaration.isOk_ofSource_iff.mp ⟨field, accepted⟩
  rw [(FieldDeclaration.declared_ofSource accepted).type, FieldType.isSome_target?_iff]
  exact ((declares.fits self member.1).relation member.2).1

/-- The attributes of an accepted relation have lists of options, each of which is given once in its
list. The relation has the options of the last list and is written accordingly. It has the options
of all lists, each of which is given once, exactly if none is given twice and the lists but the last
one say nothing but that members are deleted with their owners. -/
theorem FieldDeclaration.accumulates_iff (accepted : ofSource source = .ok field)
    : ∃! lists,
        GiveAll source.attributes lists
        ∧ (∀ options ∈ lists, (options.map word).Nodup)
        ∧ field.relation = (given (lists.getLast?.getD [])).options
        ∧ (field.relation.keepOrphans → field.skipped = false → field.WritesKeeping)
        ∧ (field.Accumulates lists.flatten
          ↔ (lists.flatten.map word).Nodup
            ∧ ∀ options ∈ lists.dropLast, ∀ option ∈ options, option = .deleteRule .cascade) := by
  obtain ⟨lists, ⟨given, distinct, replaced⟩, -⟩ := relation_of_ofSource accepted
  have target (options : lists.getLast?.getD [] ≠ []) : field.type.target?.isSome :=
    isSome_target?_of_giveAll accepted given fun none => options (by simp [none])
  refine ⟨lists, ⟨given, distinct, replaced, fun keeps => ?_, ?_⟩,
    fun _ found => found.1.unique given⟩
  · refine writesKeeping (target fun none => ?_) keeps
    rw [replaced, none] at keeps
    exact absurd keeps (by decide)
  · rw [flatten_eq_dropLast_append, accumulates_append_iff target replaced]
    simp only [List.mem_flatten, forall_exists_index, and_imp]
    exact and_congr_right fun _ =>
      ⟨fun all options here option member => all option options here member,
        fun all option options here member => all options here option member⟩

/-- A field with a relation for each list of options. -/
private def booksWith (lists : List (List Token)) : NamedField :=
  { attributes := lists.map fun contents => ⟨⟨false, ["relation"]⟩, .list contents⟩
    name := "books"
    type := .path (code "Vec < BookEntity >") false "Vec"
      (some (.path (code "BookEntity") false "BookEntity" none)) }

/-- A rule that holds anyway may stand in an attribute of its own. -/
theorem accumulates_cascade_keepOrphans
    : ∃ field,
        FieldDeclaration.ofSource
            (booksWith
              [[.name "delete_rule", .mark '=' false, .literal "\"cascade\""],
                [.name "keep_orphans"]])
          = .ok field
        ∧ field.Accumulates [.deleteRule .cascade, .keepOrphans] := by
  generalize source_eq
    : booksWith
        [[.name "delete_rule", .mark '=' false, .literal "\"cascade\""], [.name "keep_orphans"]]
      = source
  have given : GiveAll source.attributes [[.deleteRule .cascade], [.keepOrphans]] := by
    rw [← source_eq]
    exact .cons ⟨_, rfl, .last (.deleteRule (by decide +kernel))⟩
      (.cons ⟨_, rfl, .last .keepOrphans⟩ .nil)
  have isOk : (FieldDeclaration.ofSource source).toOption.isSome := by
    rw [← source_eq]
    decide +kernel
  obtain ⟨field, accepted⟩ := Option.isSome_iff_exists.mp isOk
  have accepted := eq_ok_of_toOption accepted
  obtain ⟨lists, ⟨given', -, -, -, accumulates⟩, -⟩ := FieldDeclaration.accumulates_iff accepted
  obtain rfl := given'.unique given
  exact ⟨field, accepted, accumulates.mpr ⟨by decide, by simp⟩⟩

/-- An attribute with a rule makes the relation forget that it keeps the members which leave it,
although no option is given twice. -/
theorem keepOrphans_lost
    : ∃ source field,
        FieldDeclaration.ofSource source = .ok field
        ∧ field.type.target?.isSome
        ∧ GiveAll source.attributes [[.keepOrphans], [.deleteRule .nullify]]
        ∧ field.relation = { deleteRule := .nullify, keepOrphans := false }
        ∧ field.write?.map (·.deleteOld) = some true
        ∧ ¬ field.Accumulates [.keepOrphans, .deleteRule .nullify] := by
  let source :=
    booksWith
      [[.name "keep_orphans"], [.name "delete_rule", .mark '=' false, .literal "\"nullify\""]]
  have given : GiveAll source.attributes [[.keepOrphans], [.deleteRule .nullify]] :=
    .cons ⟨_, rfl, .last .keepOrphans⟩
      (.cons ⟨_, rfl, .last (.deleteRule (by decide +kernel))⟩ .nil)
  have read
      : (FieldDeclaration.ofSource source).toOption.map (fun field =>
          (field.type.target?.isSome, field.relation, field.write?.map (·.deleteOld)))
        = some (true, { deleteRule := .nullify, keepOrphans := false }, some true) := by
    decide +kernel
  obtain ⟨field, accepted, same⟩ := Option.map_eq_some_iff.mp read
  simp only [Prod.mk.injEq] at same
  obtain ⟨target, relation, write⟩ := same
  refine ⟨source, field, eq_ok_of_toOption accepted, target, given, relation, write, fun all => ?_⟩
  have kept := all.keeps.mpr List.mem_cons_self
  rw [relation] at kept
  cases kept

end EntityStore.Derive
