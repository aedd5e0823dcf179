import EntityStore.Proofs.Derive.Field
import EntityStore.Source.Reader

/-! Which declarations are accepted as entities.
A declaration is accepted exactly if it is in the language of entities: a structure without
parameters whose attributes give it one name at most, with named fields that are all declared as
fields of entities, one of them at most as the identifier.
-/

namespace EntityStore.Derive

open Source

variable {attributes : List Attribute} {self : Attribute} {found : TextSetting}
  {settings : List Setting}

-----------------------------------------------------------------------------------------
-- Settings
-----------------------------------------------------------------------------------------

/-- The attribute has these settings. It needs no list if it has none. -/
inductive HasSettings (self : Attribute) : List Setting → Prop
  | none (absent : self.arguments = .none) : HasSettings self []
  | list {contents : List Token} {settings : List Setting} (list : self.arguments = .list contents)
    (read : readSettings contents = .ok settings)
    : HasSettings self settings

/-- The settings are a name, or there are none. -/
inductive NameAtMost : List Setting → Option String → Prop
  | none : NameAtMost [] none
  | name {literal text : String} (spelled : stringValue? literal = some text)
    : NameAtMost [.value "name" (.literal literal)] (some text)

/-- The attributes of an entity give it this name, or none. -/
def GiveName (attributes : List Attribute) (name? : Option String) : Prop :=
  ∃ lists,
    List.Forall₂ HasSettings (attributes.filter (·.isNamed "entity")) lists
    ∧ NameAtMost lists.flatten name?

private theorem textOf?_eq_ok_iff {value : Expression} {text : String}
    : textOf? value = .ok text
      ↔ ∃ literal, value = .literal literal ∧ stringValue? literal = some text := by
  unfold textOf?
  cases value with
  | literal literal =>
      cases spelled : stringValue? literal <;>
        simp [spelled, pure, Except.pure, throw, throwThe, MonadExceptOf.throw]
  | truth | form _ => simp [throw, throwThe, MonadExceptOf.throw]

private theorem problems_report_ne_nil (problem : Problem)
    : (found.report problem).problems ≠ [] := by
  simp [TextSetting.report]

/-- A value adds no problem exactly if it is a text, the first one under a known name. -/
private theorem giveNamed_iff {known name : String} {value : Except Problem String}
    {after : TextSetting}
    : found.giveNamed known name value = after ∧ after.problems = []
      ↔ found.problems = []
        ∧ found.given = false
        ∧ name = known
        ∧ ∃ text, value = .ok text ∧ after = ⟨true, some text, []⟩ := by
  unfold TextSetting.giveNamed TextSetting.give
  constructor
  · rintro ⟨rfl, silent⟩
    split_ifs at silent with named given
    · exact absurd silent (problems_report_ne_nil _)
    · cases value with
      | error problem => exact absurd silent (problems_report_ne_nil _)
      | ok text =>
          have before : found.problems = [] := silent
          simp [before, named, given]
    · exact absurd silent (problems_report_ne_nil _)
  · rintro ⟨silent, given, rfl, text, rfl, rfl⟩
    simp [silent, given]

/-- A setting adds no problem exactly if it is a text, the first one under the known name. -/
private theorem take_setting_iff {setting : Setting} {known : String} {after : TextSetting}
    : found.take known setting = after ∧ after.problems = []
      ↔ found.problems = []
        ∧ found.given = false
        ∧ ∃ literal text,
            setting = .value known (.literal literal)
            ∧ stringValue? literal = some text
            ∧ after = ⟨true, some text, []⟩ := by
  cases setting with
  | literal =>
      constructor
      · rintro ⟨rfl, silent⟩
        exact absurd silent (problems_report_ne_nil _)
      · rintro ⟨-, -, _, _, same, -⟩
        cases same
  | word name | list name =>
      rw [TextSetting.take, giveNamed_iff]
      constructor
      · rintro ⟨-, -, -, _, same, -⟩
        cases same
      · rintro ⟨-, -, _, _, same, -⟩
        cases same
  | value name value =>
      rw [TextSetting.take, giveNamed_iff]
      simp only [textOf?_eq_ok_iff]
      constructor
      · rintro ⟨silent, given, rfl, text, ⟨literal, rfl, spelled⟩, rfl⟩
        exact ⟨silent, given, literal, text, rfl, spelled, rfl⟩
      · rintro ⟨silent, given, literal, text, same, spelled, rfl⟩
        cases same
        exact ⟨silent, given, rfl, text, ⟨literal, rfl, spelled⟩, rfl⟩

/-- A problem stays when further settings are taken. -/
private theorem problems_of_foldl_take {known : String}
    (silent : (settings.foldl (TextSetting.take known) found).problems = [])
    : found.problems = [] := by
  induction settings generalizing found with
  | nil => exact silent
  | cons setting settings ih => exact (take_setting_iff.mp ⟨rfl, ih silent⟩).1

/-- Settings have no problem exactly if they are a name, or there are none. -/
private theorem foldl_take_iff {name? : Option String}
    : (settings.foldl (TextSetting.take "name") .empty).problems = []
        ∧ (settings.foldl (TextSetting.take "name") .empty).text = name?
      ↔ NameAtMost settings name? := by
  constructor
  · rintro ⟨silent, rfl⟩
    rcases settings with _ | ⟨setting, settings⟩
    · exact .none
    · rw [List.foldl_cons] at silent ⊢
      have first := problems_of_foldl_take silent
      obtain ⟨-, -, literal, text, rfl, spelled, taken⟩ := take_setting_iff.mp ⟨rfl, first⟩
      rw [taken] at silent ⊢
      rcases settings with _ | ⟨other, settings⟩
      · exact .name spelled
      · -- After the first setting no other one is taken without a problem.
        obtain ⟨-, given, -⟩ := take_setting_iff.mp ⟨rfl, problems_of_foldl_take silent⟩
        cases given
  · rintro (_ | @⟨literal, text, spelled⟩)
    · exact ⟨rfl, rfl⟩
    · have taken
          : TextSetting.empty.take "name" (.value "name" (.literal literal))
            = ⟨true, some text, []⟩ :=
        (take_setting_iff.mpr ⟨rfl, rfl, literal, text, rfl, spelled, rfl⟩).1
      rw [List.foldl_cons, List.foldl_nil, taken]
      exact ⟨rfl, rfl⟩

/-- An attribute with settings is taken as they are. -/
private theorem takeEntityAttribute_of_hasSettings (named : self.isNamed "entity")
    (has : HasSettings self settings)
    : takeEntityAttribute found self = settings.foldl (TextSetting.take "name") found := by
  unfold takeEntityAttribute
  rw [if_pos named]
  cases has with
  | none absent => rw [absent]; rfl
  | list list read => simp only [list, TextSetting.takeList, read]

/-- An attribute that adds no problem has settings. -/
private theorem hasSettings_of_takeEntityAttribute (named : self.isNamed "entity")
    (silent : (takeEntityAttribute found self).problems = [])
    : ∃ settings, HasSettings self settings := by
  unfold takeEntityAttribute at silent
  rw [if_pos named] at silent
  split at silent
  next absent => exact ⟨[], .none absent⟩
  next => exact absurd silent (problems_report_ne_nil _)
  next contents list =>
    unfold TextSetting.takeList at silent
    split at silent
    next settings read => exact ⟨settings, .list list read⟩
    next => exact absurd silent (problems_report_ne_nil _)

/-- The settings of attributes are taken one after the other. -/
private theorem foldl_takeEntityAttribute {lists : List (List Setting)}
    (each : List.Forall₂ HasSettings (attributes.filter (·.isNamed "entity")) lists)
    : attributes.foldl takeEntityAttribute found
      = lists.flatten.foldl (TextSetting.take "name") found := by
  induction attributes generalizing found lists with
  | nil =>
      cases each
      rfl
  | cons self attributes ih =>
      rw [List.foldl_cons]
      by_cases named : self.isNamed "entity"
      · rw [List.filter_cons, if_pos named] at each
        obtain ⟨settings, lists, has, others, rfl⟩ := List.forall₂_cons_left_iff.mp each
        rw [List.flatten_cons, List.foldl_append, ih others,
          takeEntityAttribute_of_hasSettings named has]
      · rw [List.filter_cons, if_neg named] at each
        rw [ih each, takeEntityAttribute, if_neg named]

/-- Attributes without a problem have settings.
Witness: induction on the attributes; a problem with one of them stays. -/
private theorem exists_hasSettings
    (silent : (attributes.foldl takeEntityAttribute found).problems = [])
    : found.problems = []
      ∧ ∃ lists, List.Forall₂ HasSettings (attributes.filter (·.isNamed "entity")) lists := by
  induction attributes generalizing found with
  | nil => exact ⟨silent, [], .nil⟩
  | cons self attributes ih =>
      rw [List.foldl_cons] at silent
      obtain ⟨first, lists, others⟩ := ih silent
      rw [List.filter_cons]
      by_cases named : self.isNamed "entity"
      · rw [if_pos named]
        obtain ⟨settings, has⟩ := hasSettings_of_takeEntityAttribute named first
        rw [takeEntityAttribute_of_hasSettings named has] at first
        exact ⟨problems_of_foldl_take first, settings :: lists, .cons has others⟩
      · rw [if_neg named]
        rw [takeEntityAttribute, if_neg named] at first
        exact ⟨first, lists, others⟩

/-- The settings of an entity have no problem exactly if its attributes give it one name at most. -/
theorem entitySettings_iff {name? : Option String}
    : (entitySettings attributes).problems = [] ∧ (entitySettings attributes).text = name?
      ↔ GiveName attributes name? := by
  unfold entitySettings GiveName
  constructor
  · rintro ⟨silent, same⟩
    obtain ⟨-, lists, each⟩ := exists_hasSettings silent
    rw [foldl_takeEntityAttribute each] at silent same
    exact ⟨lists, each, foldl_take_iff.mp ⟨silent, same⟩⟩
  · rintro ⟨lists, each, name⟩
    rw [foldl_takeEntityAttribute each]
    exact foldl_take_iff.mpr name

-----------------------------------------------------------------------------------------
-- Declarations
-----------------------------------------------------------------------------------------

variable {source : Declaration} {entity : EntityDeclaration}

/-- The declaration is one of an entity. -/
structure DeclaresEntity (source : Declaration) : Prop where
  plain : source.generic = false
  name : ∃ name?, GiveName source.attributes name?
  /-- The fields are named, and one of them is the identifier at most. -/
  fields
    : ∃ fields,
        source.body = .named fields
        ∧ (∀ field ∈ fields, DeclaresField field)
        ∧ fields.countP (fun field => field.attributes.any (·.isNamed "id")) ≤ 1

/-- No field has a problem exactly if all of them are accepted. -/
private theorem readFields_iff {sources : List NamedField} {fields : List FieldDeclaration}
    : readFields sources = (fields, [])
      ↔ List.Forall₂ (fun source field => FieldDeclaration.ofSource source = .ok field) sources
          fields := by
  refine ⟨forall₂_of_readFields, fun accepted => ?_⟩
  induction accepted with
  | nil => rfl
  | cons first _ ih =>
      obtain ⟨fields, problems⟩ := Prod.mk.inj ih
      exact Prod.ext (by simp [readFields, first, fields, Except.toOption])
        (by simp [readFields, first, problems, readFields.problemsOf])

/-- There are no second identifiers exactly if there is one at most. -/
private theorem secondIdentifiers_eq_nil_iff {fields : List FieldDeclaration}
    : secondIdentifiers fields = [] ↔ fields.countP (·.isId) ≤ 1 := by
  rw [secondIdentifiers, List.map_eq_nil_iff, List.drop_eq_nil_iff, List.countP_eq_length_filter]

/-- A declaration is accepted exactly if neither its attributes nor its fields have a problem. -/
private theorem exists_ofDeclaration_iff
    : (∃ entity, EntityDeclaration.ofDeclaration source = .ok entity)
      ↔ source.generic = false
        ∧ (entitySettings source.attributes).problems = []
        ∧ ∃ sources fields,
            source.body = .named sources
            ∧ readFields sources = (fields, [])
            ∧ secondIdentifiers fields = [] := by
  constructor
  · rintro ⟨entity, accepted⟩
    obtain ⟨-, plain, -, sources, body, each⟩ :=
      EntityDeclaration.declared_ofDeclaration accepted
    have read := readFields_iff.mpr each
    cases silent : (entitySettings source.attributes).problems with
    | cons =>
        simp [EntityDeclaration.ofDeclaration, body, namedFields, silent] at accepted
        contradiction
    | nil =>
        refine ⟨plain, rfl, sources, _, body, read, ?_⟩
        cases second : secondIdentifiers entity.fields with
        | nil => rfl
        | cons =>
            simp [EntityDeclaration.ofDeclaration, body, namedFields, silent, plain, read, second]
              at accepted
  · rintro ⟨plain, silent, sources, fields, body, read, second⟩
    have accepted
        : EntityDeclaration.ofDeclaration source
          = .ok
              { typeName := source.name
                visibility := source.visibility
                name := (entitySettings source.attributes).text.getD (defaultName source.name)
                fields } := by
      simp only [EntityDeclaration.ofDeclaration, body, namedFields, silent, plain, pure_bind,
        Bool.false_eq_true, if_false, read, List.nil_append, second]
      rfl
    exact ⟨_, accepted⟩

/-- All fields are accepted exactly if all of them are declared. -/
private theorem exists_fields_iff {sources : List NamedField}
    : (∃ fields,
        List.Forall₂ (fun source field => FieldDeclaration.ofSource source = .ok field) sources
          fields)
      ↔ ∀ source ∈ sources, DeclaresField source := by
  simp only [← FieldDeclaration.isOk_ofSource_iff]
  induction sources with
  | nil => exact ⟨fun _ _ none => (nomatch none), fun _ => ⟨[], .nil⟩⟩
  | cons source sources ih =>
      rw [List.forall_mem_cons, ← ih]
      constructor
      · rintro ⟨_, accepted⟩
        obtain ⟨field, fields, first, others, -⟩ := List.forall₂_cons_left_iff.mp accepted
        exact ⟨⟨field, first⟩, fields, others⟩
      · rintro ⟨⟨field, first⟩, fields, others⟩
        exact ⟨field :: fields, .cons first others⟩

/-- As many fields are identifiers as attributes say. -/
private theorem countP_isId {sources : List NamedField} {fields : List FieldDeclaration}
    (accepted
      : List.Forall₂ (fun source field => FieldDeclaration.ofSource source = .ok field) sources
          fields)
    : fields.countP (·.isId)
      = sources.countP fun source => source.attributes.any (·.isNamed "id") := by
  induction accepted with
  | nil => rfl
  | @cons source field _ _ first _ ih =>
      have same : field.isId = source.attributes.any (·.isNamed "id") := by
        rw [Bool.eq_iff_iff, FieldDeclaration.isId_iff first, List.any_eq_true]
      rw [List.countP_cons, List.countP_cons, ih, same]

/-- A declaration is accepted exactly if it declares an entity, and then the entity has all fields
that are declared, one by one. -/
theorem EntityDeclaration.isOk_ofDeclaration_iff (source : Declaration)
    : ((∃ entity, ofDeclaration source = .ok entity) ↔ DeclaresEntity source)
      ∧ ∀ {entity},
          ofDeclaration source = .ok entity
          → ∃ fields,
              source.body = .named fields
              ∧ List.Forall₂ (fun field declared => declared.DeclaredBy field) fields
                  entity.fields := by
  refine ⟨exists_ofDeclaration_iff.trans ?_, fun {entity} accepted => ?_⟩
  · constructor
    · rintro ⟨plain, silent, sources, fields, body, read, second⟩
      have accepted := readFields_iff.mp read
      rw [secondIdentifiers_eq_nil_iff, countP_isId accepted] at second
      exact
        { plain
          name := ⟨_, entitySettings_iff.mp ⟨silent, rfl⟩⟩
          fields := ⟨sources, body, exists_fields_iff.mp ⟨fields, accepted⟩, second⟩ }
    · rintro ⟨plain, ⟨name?, name⟩, sources, body, each, second⟩
      obtain ⟨fields, accepted⟩ := exists_fields_iff.mpr each
      rw [← countP_isId accepted, ← secondIdentifiers_eq_nil_iff] at second
      exact ⟨plain, (entitySettings_iff.mpr name).1, sources, fields, body,
        readFields_iff.mpr accepted, second⟩
  · obtain ⟨-, -, -, fields, body, each⟩ := EntityDeclaration.declared_ofDeclaration accepted
    exact ⟨fields, body, each.imp fun _ _ => FieldDeclaration.declared_ofSource⟩

/-- A structure with a name of its own, an identifier, a relation and a field that is not stored
declares an entity with all four fields. -/
theorem author_isOk
    : ∃ tokens source,
        Source.read?
            ("#[entity(name = \"Writer\")] struct AuthorEntity \x7b #[id] id: String, "
              ++ "#[relation(keep_orphans, delete_rule = \"nullify\")] "
              ++ "books: Option<Vec<BookEntity>>, #[field(skip)] cached: u8, name: String \x7d")
          = some tokens
        ∧ Declaration.read? tokens = some source
        ∧ DeclaresEntity source
        ∧ ∃ entity fields,
            EntityDeclaration.ofDeclaration source = .ok entity
            ∧ source.body = .named fields
            ∧ List.Forall₂ (fun field declared => declared.DeclaredBy field) fields
                entity.fields := by
  generalize spelled : (_ ++ _ : String) = text
  have accepted
      : ((Source.read? text).bind Declaration.read?).map
          (fun source => (EntityDeclaration.ofDeclaration source).toOption.isSome)
        = some true := by
    rw [← spelled]
    decide +kernel
  obtain ⟨source, parsed, isOk⟩ := Option.map_eq_some_iff.mp accepted
  obtain ⟨tokens, read, found⟩ := Option.bind_eq_some_iff.mp parsed
  obtain ⟨declares, fields⟩ := EntityDeclaration.isOk_ofDeclaration_iff source
  obtain ⟨entity, accepted⟩ := Option.isSome_iff_exists.mp isOk
  have accepted := eq_ok_of_toOption accepted
  exact ⟨tokens, source, read, found, declares.mp ⟨entity, accepted⟩, entity,
    (fields accepted).imp fun _ => .intro accepted⟩

/-- Options may stand in brackets that are no parentheses. -/
theorem bracketed_isOk
    : ∃ source entity,
        Declaration.read?
            [.name "struct", .name "BookEntity",
              braces
                [.mark '#' false, brackets [.name "field", brackets [.name "skip"]],
                  .name "cached", .mark ':' false, .name "String"]]
          = some source
        ∧ EntityDeclaration.ofDeclaration source = .ok entity := by
  have accepted
      : (Declaration.read?
            [.name "struct", .name "BookEntity",
              braces
                [.mark '#' false, brackets [.name "field", brackets [.name "skip"]],
                  .name "cached", .mark ':' false, .name "String"]]).map
          (fun source => (EntityDeclaration.ofDeclaration source).toOption.isSome)
        = some true := by
    decide +kernel
  obtain ⟨source, found, isOk⟩ := Option.map_eq_some_iff.mp accepted
  obtain ⟨entity, accepted⟩ := Option.isSome_iff_exists.mp isOk
  exact ⟨source, entity, found, eq_ok_of_toOption accepted⟩

end EntityStore.Derive
