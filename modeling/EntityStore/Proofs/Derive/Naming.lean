import EntityStore.Derive.ServiceCode
import EntityStore.Proofs.Derive.Declaration
import EntityStore.Proofs.Json.Fields
import EntityStore.Proofs.Source.Name
import EntityStore.Proofs.Source.Parser

/-! The names in the code of a service.
The code of a service has names that are formed from others: a variable for each structure, two
operations for each entity with an identifier, and a trait. There is code exactly if all of them are
names, which depends on the name of the module, on the raw names of structures, and on the
characters of the names that entities are given.
-/

namespace EntityStore.Derive

open Source Text

variable {service : ServiceDeclaration} {entity : EntityDeclaration}

-----------------------------------------------------------------------------------------
-- Names that can be formed
-----------------------------------------------------------------------------------------

/-- The code of a service can name what it has for the entity. -/
structure EntityDeclaration.Nameable (entity : EntityDeclaration) : Prop where
  /-- The name of the structure is not raw, or else its small letters may be raw, too. -/
  binding : isRaw entity.typeName → snakeCase (bareName entity.typeName) ∉ neverRaw
  /-- The operations go on with the name of the entity. -/
  operations : entity.idField?.isSome → Continues entity.name

/-- The code of the service can name everything that it has. -/
structure ServiceDeclaration.Nameable (service : ServiceDeclaration) : Prop where
  plain : isRaw service.module = false
  opens : Opens service.module
  entities : ∀ entity ∈ service.entities, entity.Nameable

/-- The names that the service is declared with are names. -/
structure ServiceDeclaration.Named (service : ServiceDeclaration) : Prop where
  module : IsName service.module
  types : ∀ entity ∈ service.entities, IsName entity.typeName

/-- The default name of an entity goes on with identifiers unless the name of its structure is raw. -/
theorem continues_defaultName {typeName : String} (named : IsName typeName)
    : Continues (defaultName typeName) ↔ isRaw typeName = false := by
  have parts : ∃ ending, typeName.toList = (defaultName typeName).toList ++ ending
      ∧ '#' ∉ ending := by
    unfold defaultName
    dsimp only
    split_ifs with suffixed
    · obtain ⟨stem, same⟩ := List.isSuffixOf_iff_suffix.mp suffixed.1
      refine ⟨entitySuffix.toList, ?_, by decide⟩
      have length : typeName.length - entitySuffix.length = stem.length := by
        rw [← String.length_toList, ← String.length_toList, ← same]
        simp
      rw [String.toList_ofList, length, ← same, List.take_left]
    · exact ⟨[], by simp, by simp⟩
  obtain ⟨ending, same, foreign⟩ := parts
  cases raw : isRaw typeName with
  | false =>
      have all := all_continue_of_isIdentifier ((isName_iff_of_plain raw).mp named)
      rw [same, List.all_append, Bool.and_eq_true] at all
      simp [continues_of_all all.1]
  | true =>
      obtain ⟨rest, marked⟩ := isRaw_iff.mp raw
      have hash : '#' ∈ (defaultName typeName).toList ++ ending := by
        simp [← same, marked]
      have inside := (List.mem_append.mp hash).resolve_right foreign
      simp [not_continues_of_mem inside (by decide) (by decide)]

/-- An entity that is given no name can be named, unless its structure has a raw name and either an
identifier or small letters that are never raw. -/
theorem EntityDeclaration.nameable_iff_of_defaultName (named : IsName entity.typeName)
    (isDefault : entity.name = defaultName entity.typeName)
    : entity.Nameable
      ↔ (isRaw entity.typeName
        → entity.idField? = none ∧ snakeCase (bareName entity.typeName) ∉ neverRaw) := by
  have operations : (entity.idField?.isSome → Continues entity.name)
      ↔ (isRaw entity.typeName → entity.idField? = none) := by
    rw [isDefault, continues_defaultName named]
    cases isRaw entity.typeName <;> cases entity.idField? <;> simp
  rw [forall_and, ← operations]
  exact ⟨fun nameable => ⟨nameable.operations, nameable.binding⟩,
    fun ⟨operations, binding⟩ => ⟨binding, operations⟩⟩

-----------------------------------------------------------------------------------------
-- The code of a service
-----------------------------------------------------------------------------------------

/-- A text that is a name is spelled like it. -/
theorem eq_of_nameOf? {text name : String} (found : nameOf? text = some name) : name = text := by
  unfold nameOf? at found
  dsimp only at found
  split_ifs at found <;> exact (Option.some.inj found).symm

/-- A description is kept in a variable with the small letters of the structure. -/
theorem EntityDeclaration.binding_of_description? {entity : EntityDeclaration}
    {description : EntityDescription} (described : entity.description? = some description)
    : description.binding = Text.snakeCase entity.typeName := by
  obtain ⟨binding, found, described⟩ := Option.bind_eq_some_iff.mp described
  cases described
  exact eq_of_nameOf? found

/-- The schema of a service has a description of each entity, and relations of each. -/
theorem ServiceDeclaration.schemaDescription?_eq_some_iff {schema : SchemaDescription}
    : service.schemaDescription? = some schema
      ↔ schema.model = service.model
        ∧ List.Forall₂ (fun entity description => entity.description? = some description)
            service.entities schema.entities
        ∧ ∃ relations,
            List.Forall₂ (fun entity related => service.relationsOf? entity = some related)
              service.entities relations
            ∧ schema.relations = relations.flatten := by
  simp only [← mapM_eq_some_iff]
  unfold schemaDescription?
  constructor
  · intro described
    obtain ⟨entities, first, described⟩ := Option.bind_eq_some_iff.mp described
    obtain ⟨relations, second, described⟩ := Option.bind_eq_some_iff.mp described
    cases described
    exact ⟨rfl, first, relations, second, rfl⟩
  · rintro ⟨model, first, relations, second, flat⟩
    obtain ⟨_, _, _⟩ := schema
    subst model flat
    rw [first, second]
    rfl

/-- Every relation is between entities of the service, and names their variables only. -/
private theorem isSome_relationsOf?
    (bound : ∀ entity ∈ service.entities, (bindingOf? entity.typeName).isSome)
    (listed : entity ∈ service.entities)
    : (service.relationsOf? entity).isSome := by
  refine isSome_mapM_iff.mpr fun (field, target) member => ?_
  obtain ⟨source, -, found⟩ := List.mem_filterMap.mp member
  obtain ⟨other, target?, same⟩ := Option.map_eq_some_iff.mp found
  cases same
  obtain ⟨typeName, -, known⟩ := Option.bind_eq_some_iff.mp target?
  have here := bound entity listed
  have there := bound target (List.mem_of_find?_eq_some known)
  obtain ⟨first, here⟩ := Option.isSome_iff_exists.mp here
  obtain ⟨second, there⟩ := Option.isSome_iff_exists.mp there
  simp [relationDescription?, here, there]

/-- There is a description of the schema exactly if every structure has a variable.
Witness: the ends of the relations are entities of the service, too. -/
theorem ServiceDeclaration.isSome_schemaDescription? (service : ServiceDeclaration)
    : service.schemaDescription?.isSome
      ↔ ∀ entity ∈ service.entities, (bindingOf? entity.typeName).isSome := by
  have parts : service.schemaDescription?.isSome
      ↔ (service.entities.mapM EntityDeclaration.description?).isSome
        ∧ (service.entities.mapM service.relationsOf?).isSome := by
    unfold schemaDescription?
    cases service.entities.mapM EntityDeclaration.description? with
    | none => simp
    | some entities => cases service.entities.mapM service.relationsOf? <;> simp
  have described : (service.entities.mapM EntityDeclaration.description?).isSome
      ↔ ∀ entity ∈ service.entities, (bindingOf? entity.typeName).isSome := by
    rw [isSome_mapM_iff]
    refine forall₂_congr fun entity _ => ?_
    cases found : bindingOf? entity.typeName <;> simp [EntityDeclaration.description?, found]
  rw [parts, described, and_iff_left_iff_imp]
  exact fun bound => isSome_mapM_iff.mpr fun entity => isSome_relationsOf? bound

/-- There are operations exactly if those of every entity with an identifier go on with its name. -/
theorem ServiceDeclaration.isSome_operations? (service : ServiceDeclaration)
    : service.operations?.isSome ↔ ∀ entity ∈ service.identifiable, Continues entity.name := by
  have parts : service.operations?.isSome
      ↔ (service.identifiable.mapM EntityDeclaration.queryOperation?).isSome
        ∧ (service.identifiable.mapM EntityDeclaration.updateOperation?).isSome := by
    unfold operations?
    cases service.identifiable.mapM EntityDeclaration.queryOperation? with
    | none => simp
    | some queries =>
        cases service.identifiable.mapM EntityDeclaration.updateOperation? <;> simp
  have query (entity : EntityDeclaration)
      : entity.queryOperation?.isSome ↔ Continues entity.name := by
    rw [← isName_append_snakeCase "query_" (by decide) (by decide), IsName,
      ← EntityDeclaration.operationName?, EntityDeclaration.queryOperation?]
    cases entity.operationName? "query_" <;> simp
  have update (entity : EntityDeclaration)
      : entity.updateOperation?.isSome ↔ Continues entity.name := by
    rw [← isName_append_snakeCase "add_or_update_" (by decide) (by decide), IsName,
      ← EntityDeclaration.operationName?, EntityDeclaration.updateOperation?]
    cases entity.operationName? "add_or_update_" <;> simp
  simp only [parts, isSome_mapM_iff, query, update, and_self]

/-- There is code exactly if there are a schema, operations and a name of the trait. -/
theorem ServiceDeclaration.isSome_serviceCode? (service : ServiceDeclaration)
    : service.serviceCode?.isSome
      ↔ service.schemaDescription?.isSome ∧ service.operations?.isSome
        ∧ service.traitName?.isSome := by
  unfold serviceCode?
  cases service.schemaDescription? with
  | none => simp
  | some schema =>
      cases service.operations? with
      | none => simp
      | some operations =>
          cases service.traitName? with
          | none => simp
          | some trait => simp

/-- A service that is declared with names has code exactly if the code can name everything. -/
theorem ServiceDeclaration.Named.isSome_serviceCode?_iff (named : service.Named)
    : service.serviceCode?.isSome ↔ service.Nameable := by
  have bindings : (∀ entity ∈ service.entities, (bindingOf? entity.typeName).isSome)
      ↔ ∀ entity ∈ service.entities,
          isRaw entity.typeName → snakeCase (bareName entity.typeName) ∉ neverRaw :=
    forall₂_congr fun entity listed => isName_snakeCase (named.types entity listed)
  have trait : service.traitName?.isSome ↔ isRaw service.module = false ∧ Opens service.module :=
    isName_pascalCase_append named.module (by decide)
  rw [isSome_serviceCode?, isSome_schemaDescription?, isSome_operations?, trait, bindings]
  simp only [identifiable, List.mem_filter, and_imp]
  constructor
  · rintro ⟨binding, operations, plain, opens⟩
    exact ⟨plain, opens, fun entity listed => ⟨binding entity listed, operations entity listed⟩⟩
  · rintro ⟨plain, opens, entities⟩
    exact ⟨fun entity listed => (entities entity listed).binding,
      fun entity listed => (entities entity listed).operations, plain, opens⟩

-----------------------------------------------------------------------------------------
-- The expansion of a module
-----------------------------------------------------------------------------------------

variable {refusal? : Refusal} {module : Module} {model : Option String}

/-- The declaration of an entity is an item. -/
private theorem eq_of_entitySource? {item : Item} {source : Declaration}
    (found : entitySource? item = some source)
    : ∃ tokens, item = .declaration source tokens := by
  unfold entitySource? at found
  split at found
  next declaration tokens =>
    split at found
    · contradiction
    · split_ifs at found
      cases found
      exact ⟨tokens, rfl⟩
  next => contradiction

/-- The entities of a module have the names of structures in it. -/
private theorem named_of_readEntities {items : List Item} {entities : List EntityDeclaration}
    (read : readEntities items = some entities) (listed : entity ∈ entities)
    : ∃ declaration tokens, Item.declaration declaration tokens ∈ items
      ∧ declaration.name = entity.typeName := by
  have names : entities.map (·.typeName) = (items.filterMap entitySource?).map (·.name) := by
    refine map_eq_of_mapM (fun source entity found => ?_) read
    cases accepted : EntityDeclaration.ofDeclaration source with
    | error problems => simp [accepted, Except.toOption] at found
    | ok declared =>
        obtain rfl : declared = entity := by simpa [accepted, Except.toOption] using found
        exact (EntityDeclaration.declared_ofDeclaration accepted).typeName
  have member := List.mem_map_of_mem (f := fun entity => entity.typeName) listed
  rw [names] at member
  obtain ⟨source, among, same⟩ := List.mem_map.mp member
  obtain ⟨item, inside, found⟩ := List.mem_filterMap.mp among
  obtain ⟨tokens, rfl⟩ := eq_of_entitySource? found
  exact ⟨source, tokens, inside, same⟩

/-- A service is declared with names of the module. -/
theorem ServiceDeclaration.named_of_readService {service : ServiceDeclaration}
    (named : module.Named) (read : readService model module = .ok (some service))
    : service.Named := by
  unfold readService at read
  split at read
  · contradiction
  next body found =>
    split at read
    · cases read
    next entities entitiesRead =>
      dsimp only at read
      split at read
      · cases read
        refine ⟨named.name, fun entity listed => ?_⟩
        obtain ⟨declaration, tokens, inside, same⟩ := named_of_readEntities entitiesRead listed
        rw [← same]
        exact named.items body found _ inside
      · contradiction

/-- A module of names is turned into something, items or errors, unless it declares a service that
has code which cannot be named: because the module's name is raw or starts with characters that
start no identifier, because of a raw name of a structure that is a word without a raw form in small
letters, or because of an entity with an identifier and a name that has other characters than
identifiers and separators, as it may be given and as raw structures have by default.
Witness: the code is formed of names of the module. -/
theorem deriveService_isSome_iff (named : module.Named) (refusal? : Refusal)
    (arguments : List Token)
    : (deriveService refusal? arguments module).isSome
      ↔ ∀ service,
          readModel arguments >>= (readService · module) = .ok (some service)
          → service.Nameable := by
  unfold deriveService
  split
  next problems found => simp [found]
  next found => simp [found]
  next service found =>
    cases given : readModel arguments with
    | error problems =>
        rw [given] at found
        contradiction
    | ok model =>
        rw [given] at found
        have declared := ServiceDeclaration.named_of_readService named found
        rw [Option.isSome_map, declared.isSome_serviceCode?_iff]
        constructor
        · intro nameable other read
          cases found.symm.trans read
          exact nameable
        · exact fun all => all service found

/-- A module with an entity of the given name. -/
private def libraryNamed (name : String) : String :=
  "mod library \x7b #[derive(Entity)] #[entity(name = \"" ++ name
    ++ "\")] struct Book \x7b #[id] id: String \x7d \x7d"

/-- What is read as a module has names. -/
theorem Module.named_of_text {text : String} {tokens : List Token}
    (read : Source.read? text = some tokens) (found : Module.read? tokens = some module)
    : module.Named :=
  Module.named_of_read? (allNamed_of_read? read) found

/-- A name with a separator and letters that are not in the Latin alphabet is turned into code, and
everything in it has been named. -/
theorem separated_isSome
    : ∃ tokens module,
        Source.read? (libraryNamed "Große Bücher") = some tokens
        ∧ Module.read? tokens = some module
        ∧ module.Named
        ∧ (deriveService keywordRefusal? [] module).isSome
        ∧ ∀ service,
            readModel [] >>= (readService · module) = .ok (some service)
            → service.Nameable := by
  have derived : (((Source.read? (libraryNamed "Große Bücher")).bind Module.read?).map
      fun module => (deriveService keywordRefusal? [] module).isSome) = some true := by
    decide +kernel
  obtain ⟨module, parsed, derived⟩ := Option.map_eq_some_iff.mp derived
  obtain ⟨tokens, read, found⟩ := Option.bind_eq_some_iff.mp parsed
  have named := Module.named_of_text read found
  exact ⟨tokens, module, read, found, named, derived,
    (deriveService_isSome_iff named keywordRefusal? []).mp derived⟩

/-- There is nothing for an entity with a slash in its name. -/
theorem slashed_isNone
    : ∃ tokens module,
        Source.read? (libraryNamed "my/book") = some tokens
        ∧ Module.read? tokens = some module
        ∧ module.Named
        ∧ deriveService keywordRefusal? [] module = none := by
  have derived : (((Source.read? (libraryNamed "my/book")).bind Module.read?).map
      fun module => (deriveService keywordRefusal? [] module).isNone) = some true := by
    decide +kernel
  obtain ⟨module, parsed, derived⟩ := Option.map_eq_some_iff.mp derived
  obtain ⟨tokens, read, found⟩ := Option.bind_eq_some_iff.mp parsed
  exact ⟨tokens, module, read, found, Module.named_of_text read found,
    Option.isNone_iff_eq_none.mp derived⟩

end EntityStore.Derive
