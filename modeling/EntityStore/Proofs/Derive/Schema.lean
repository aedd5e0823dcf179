import EntityStore.Proofs.Derive.Emitters
import EntityStore.Proofs.Derive.Field
import EntityStore.Proofs.Derive.Naming

/-! The schema of a service as its code makes it.
The code describes every entity with its stored scalar fields, and then relates it to the entities
that its stored references name. Targets are looked up by name, and a reference without one would be
left out. An accepted module has a target for each.
-/

namespace EntityStore.Derive

open Source Text

variable {service : ServiceDeclaration} {entity : EntityDeclaration} {field : FieldDeclaration}
  {name : String}

-----------------------------------------------------------------------------------------
-- The statements of a schema
-----------------------------------------------------------------------------------------

/-- A call without arguments. -/
def calling (name : String) : List Token :=
  callCode (code "." ++ nameCode name) []

/-- The call that adds a scalar field to a description. -/
def addingAttribute (field : FieldDeclaration) (type : AttributeType) : List Token :=
  let shape := field.type.shape
  callCode (code ". attribute")
    [callCode (runtime "AttributeDescriptor :: new")
        [textCode field.name, runtime ("AttributeType :: " ++ attributeTypeName type)]
      ++ (if shape.optional ∧ ¬ shape.list then calling "optional" else [])
      ++ (if shape.list then calling "array" else [])]

/-- The statement that relates an entity to the target of a field. -/
def relating (entity : EntityDeclaration) (field : FieldDeclaration) (target : String)
    : List Token :=
  let destination := code "&" ++ nameCode (snakeCase target)
    ++ (if target = entity.typeName then calling "clone" else [])
  callCode (nameCode (snakeCase entity.typeName) ++ code ". relate")
    [destination, textCode field.name,
      [.literal (if field.type.shape.list then "0usize" else "1usize")],
      runtime ("DeleteRule :: " ++ deleteRuleName field.relation.deleteRule)]
  ++ code ";"

/-- Code for each stored field whose items are scalar. -/
def perScalar (entity : EntityDeclaration) (codeOf : FieldDeclaration → AttributeType → List Token)
    : List Token :=
  entity.fields.flatMap fun field =>
    match field.skipped, field.type.kind with
    | false, .scalar type => codeOf field type
    | _, _ => []

/-- Code for each stored field whose items are entities. -/
def perReference (entity : EntityDeclaration) (codeOf : FieldDeclaration → String → List Token)
    : List Token :=
  entity.fields.flatMap fun field =>
    match field.skipped, field.type.kind with
    | false, .reference target => codeOf field target
    | _, _ => []

/-- The statement that describes an entity. Its variable is changed if the entity has references. -/
def describing (entity : EntityDeclaration) : List Token :=
  let changes := entity.fields.any fun field => !field.skipped && field.type.target?.isSome
  code (if changes then "let mut" else "let") ++ nameCode (snakeCase entity.typeName) ++ code "="
    ++ callCode (runtime "EntityDescriptor :: new") [textCode entity.name]
    ++ perScalar entity addingAttribute ++ code ";"

/-- The function that makes the schema of a service: it describes all entities and then relates
them. -/
def schemaFunction (service : ServiceDeclaration) : List Token :=
  let bindings := service.entities.map fun entity => nameCode (snakeCase entity.typeName)
  let entities := code ":: std :: vec !" ++ [brackets (commaSeparated bindings)]
  callCode (code "pub fn schema") [] ++ code "->" ++ runtime "Schema"
    ++ [braces
        (service.entities.flatMap describing
          ++ service.entities.flatMap (fun entity => perReference entity (relating entity))
          ++ callCode (runtime "Schema :: new") [code "MODEL_NAME", entities])]

-----------------------------------------------------------------------------------------
-- Descriptions of entities
-----------------------------------------------------------------------------------------

/-- The description of a scalar field is the call that adds it. -/
private theorem descriptionCode_attribute {type : AttributeType}
    (kind : field.type.kind = .scalar type)
    : field.attributeDescription?.map (·.descriptionCode)
      = some (addingAttribute field type) := by
  simp only [FieldDeclaration.attributeDescription?, FieldType.scalar?, kind, Option.map_some,
    AttributeDescription.descriptionCode, addingAttribute, modifierCode, calling,
    attributeTypeCode, FieldDeclaration.key, Bool.and_eq_true, Bool.not_eq_true']
  cases field.type.shape.list <;> simp

/-- The attributes of an entity are described one by one. -/
private theorem descriptionCode_attributes (entity : EntityDeclaration)
    : (entity.attributes.filterMap (·.attributeDescription?)).flatMap (·.descriptionCode)
      = perScalar entity addingAttribute := by
  unfold EntityDeclaration.attributes perScalar
  induction entity.fields with
  | nil => rfl
  | cons field fields ih =>
      rw [List.flatMap_cons, ← ih]
      cases skipped : field.skipped with
      | true => simp [FieldDeclaration.isAttribute, skipped]
      | false =>
          cases kind : field.type.kind with
          | scalar type =>
              obtain ⟨description, found, same⟩ :=
                Option.map_eq_some_iff.mp (descriptionCode_attribute kind)
              have stored : field.isAttribute := by
                simp [FieldDeclaration.isAttribute, skipped, FieldType.scalar?, kind]
              simp [stored, found, same]
          | reference | textual =>
              simp [FieldDeclaration.isAttribute, skipped, FieldType.scalar?, kind]

/-- What is described of an entity is its statement. -/
private theorem descriptionCode_eq {description : EntityDescription}
    (described : entity.description? = some description)
    : description.descriptionCode = describing entity := by
  obtain ⟨binding, found, described⟩ := Option.bind_eq_some_iff.mp described
  cases described
  obtain rfl := eq_of_nameOf? found
  have changes : (!entity.relationships.isEmpty)
      = entity.fields.any fun field => !field.skipped && field.type.target?.isSome := by
    rw [Bool.eq_iff_iff]
    simp [EntityDeclaration.relationships, FieldDeclaration.isRelationship,
      Option.isSome_iff_ne_none]
  simp only [EntityDescription.descriptionCode, describing, changes, descriptionCode_attributes]

-----------------------------------------------------------------------------------------
-- Relations
-----------------------------------------------------------------------------------------

/-- A relation to a target is its statement. -/
private theorem relationCode_eq {target : EntityDeclaration} {description : RelationDescription}
    (described : relationDescription? entity field target = some description)
    : description.relationCode = relating entity field target.typeName := by
  obtain ⟨source, sourceFound, described⟩ := Option.bind_eq_some_iff.mp described
  obtain ⟨destination, destinationFound, described⟩ := Option.bind_eq_some_iff.mp described
  cases described
  obtain rfl := eq_of_nameOf? sourceFound
  obtain rfl := eq_of_nameOf? destinationFound
  simp only [RelationDescription.relationCode, relating, modifierCode, calling,
    FieldDeclaration.key, decide_eq_true_eq]
  cases field.type.shape.list <;> rfl

/-- The target of a relation is found under its name. -/
private theorem targetOf?_eq (declared : ∃ other ∈ service.entities, other.typeName = name)
    (names : field.type.target? = some name)
    : ∃ target, service.targetOf? field = some target ∧ target.typeName = name := by
  obtain ⟨other, listed, rfl⟩ := declared
  have some : (service.entity? other.typeName).isSome := by
    rw [ServiceDeclaration.entity?, List.find?_isSome]
    exact ⟨other, listed, by simp⟩
  obtain ⟨target, found⟩ := Option.isSome_iff_exists.mp some
  refine ⟨target, by rw [ServiceDeclaration.targetOf?, names]; exact found, ?_⟩
  simpa using List.find?_some found

/-- The relations of an entity are its statements, where every target is known. -/
private theorem relationCode_relations
    (known
      : ∀ field ∈ entity.relationships, ∀ target,
          field.type.target? = some target
          → ∃ other ∈ service.entities, other.typeName = target)
    {relations : List RelationDescription} (found : service.relationsOf? entity = some relations)
    : relations.flatMap (·.relationCode) = perReference entity (relating entity) := by
  have statements : relations.map (·.relationCode)
      = entity.relationships.filterMap fun field =>
          field.type.target?.map (relating entity field) := by
    rw [map_eq_of_mapM (fun _ _ => relationCode_eq) found, List.map_filterMap]
    refine List.filterMap_congr fun field related => ?_
    cases names : field.type.target? with
    | none => simp [ServiceDeclaration.targetOf?, names]
    | some name =>
        obtain ⟨target, found, rfl⟩ := targetOf?_eq (known field related name names) names
        simp [found]
  rw [List.flatMap_def, statements]
  unfold EntityDeclaration.relationships perReference
  clear known found statements
  induction entity.fields with
  | nil => rfl
  | cons field fields ih =>
      rw [List.flatMap_cons, ← ih]
      cases skipped : field.skipped with
      | true => simp [FieldDeclaration.isRelationship, skipped]
      | false =>
          cases kind : field.type.kind with
          | reference target =>
              have stored : field.isRelationship := by
                simp [FieldDeclaration.isRelationship, skipped, FieldType.target?, kind]
              simp [stored, FieldType.target?, kind]
          | scalar | textual =>
              simp [FieldDeclaration.isRelationship, skipped, FieldType.target?, kind]

-----------------------------------------------------------------------------------------
-- Schemas
-----------------------------------------------------------------------------------------

variable {refusal? : Refusal} {module : Module} {model : Option String}

/-- The relations of all entities are their statements. -/
private theorem relationCode_all (declared : service.DeclaredBy module)
    {entities : List EntityDeclaration} (listed : entities ⊆ service.entities)
    {relations : List (List RelationDescription)}
    (found
      : List.Forall₂ (fun entity related => service.relationsOf? entity = some related) entities
          relations)
    : relations.flatten.flatMap (·.relationCode)
      = entities.flatMap fun entity => perReference entity (relating entity) := by
  induction found with
  | nil => rfl
  | @cons entity related _ _ first _ ih =>
      rw [List.cons_subset] at listed
      rw [List.flatten_cons, List.flatMap_append, List.flatMap_cons, ih listed.2,
        relationCode_relations (declared.known entity listed.1) first]

/-- The code of a schema ends with the function that makes it. -/
private theorem schemaFunction_suffix (declared : service.DeclaredBy module)
    {schema : SchemaDescription} (described : service.schemaDescription? = some schema)
    : schemaFunction service <:+ schema.schemaCode := by
  obtain ⟨-, each, relations, related, flat⟩ :=
    ServiceDeclaration.schemaDescription?_eq_some_iff.mp described
  have bindings : schema.entities.map (fun entity => nameCode entity.binding)
      = service.entities.map fun entity => nameCode (snakeCase entity.typeName) :=
    map_eq_of_mapM (fun _ _ found =>
      congrArg nameCode (EntityDeclaration.binding_of_description? found))
      (mapM_eq_some_iff.mpr each)
  have descriptions : schema.entities.flatMap (·.descriptionCode)
      = service.entities.flatMap describing := by
    rw [List.flatMap_def, List.flatMap_def,
      map_eq_of_mapM (fun _ _ => descriptionCode_eq) (mapM_eq_some_iff.mpr each)]
  unfold SchemaDescription.schemaCode schemaFunction
  dsimp only
  rw [bindings, descriptions, flat, relationCode_all declared (List.Subset.refl _) related]
  exact ⟨fixedDocCode " Model name of this service group."
      ++ code "pub const MODEL_NAME : & str =" ++ textCode schema.model ++ code ";"
      ++ fixedDocCode " Persistence schema of every entity in this module." ++ mustUseCode,
    by simp only [List.append_assoc]⟩

/-- Every partner is one of an item. -/
private theorem exists_of_mem_partners {α β : Type} {related : α → β → Prop} {items : List α}
    {partners : List β} (pairs : List.Forall₂ related items partners) {partner : β}
    (listed : partner ∈ partners)
    : ∃ item ∈ items, related item partner := by
  induction pairs with
  | nil => cases listed
  | @cons first _ _ _ pair _ ih =>
      rcases List.mem_cons.mp listed with rfl | listed
      · exact ⟨first, List.mem_cons_self, pair⟩
      · obtain ⟨item, member, pair⟩ := ih listed
        exact ⟨item, List.mem_cons_of_mem _ member, pair⟩

/-- The code of a service starts with that of its schema. -/
private theorem schemaCode_of_serviceCode? {generated : List Token}
    (found : service.serviceCode? = some generated)
    : ∃ schema,
        service.schemaDescription? = some schema ∧ schema.schemaCode <+: generated := by
  unfold ServiceDeclaration.serviceCode? at found
  obtain ⟨schema, described, found⟩ := Option.bind_eq_some_iff.mp found
  obtain ⟨operations, -, found⟩ := Option.bind_eq_some_iff.mp found
  obtain ⟨trait, -, found⟩ := Option.bind_eq_some_iff.mp found
  cases found
  refine ⟨schema, described, ?_⟩
  simp only [List.append_assoc]
  exact List.prefix_append _ _

/-- An accepted module is turned into itself with the code of its service at the end. -/
private theorem deriveService_of_readService {arguments : List Token}
    (given : readModel arguments = .ok model)
    (accepted : readService model module = .ok (some service))
    : deriveService refusal? arguments module
      = service.serviceCode?.map fun generated =>
          ⟨[], withCode module (itemsCode refusal? generated)⟩ := by
  have read : readModel arguments >>= (readService · module) = .ok (some service) := by
    rw [given]
    exact accepted
  rw [deriveService, read]

/-- The fields of an entity are classified by the types that they are declared with. -/
private theorem type_of_ofDeclaration {source : Declaration}
    (accepted : EntityDeclaration.ofDeclaration source = .ok entity)
    (listed : field ∈ entity.fields)
    : field.type = .ofType field.declared := by
  obtain ⟨sources, -, each⟩ := (EntityDeclaration.declared_ofDeclaration accepted).fields
  obtain ⟨source, -, accepted⟩ := exists_of_mem_partners each listed
  have declared := FieldDeclaration.declared_ofSource accepted
  rw [declared.type, declared.declared]

/-- The code of an accepted module of names has the function that makes its schema. The function
describes all entities of the module, and relates every reference that is stored to the entity that
its type names. There is a schema exactly if all variables can be formed. The module gets the code
at its end if the code is read as items, and else the report of why it is not. -/
theorem schemaFunction_of_readService (named : module.Named)
    (accepted : readService model module = .ok (some service))
    : List.Forall₂ (fun source entity => EntityDeclaration.ofDeclaration source = .ok entity)
        (entitySources module) service.entities
      ∧ (∀ entity ∈ service.entities, ∀ field ∈ entity.fields,
          field.type = .ofType field.declared
          ∧ ∀ target,
              FieldClass.Of field (.reference target)
              → (itemType field.declared).plainName? = some target
                ∧ ∃ other ∈ service.entities, other.typeName = target)
      ∧ (service.schemaDescription?.isSome
        ↔ ∀ entity ∈ service.entities,
            isRaw entity.typeName → snakeCase (bareName entity.typeName) ∉ neverRaw)
      ∧ (∀ {schema},
          service.schemaDescription? = some schema
          → schemaFunction service <:+ schema.schemaCode)
      ∧ ∀ {refusal? arguments expansion},
          readModel arguments = .ok model
          → deriveService refusal? arguments module = some expansion
          → ∃ generated,
              service.serviceCode? = some generated
              ∧ schemaFunction service <:+: generated
              ∧ expansion = ⟨[], withCode module (itemsCode refusal? generated)⟩ := by
  have declared := ServiceDeclaration.declared_of_readService accepted
  have named := ServiceDeclaration.named_of_readService named accepted
  refine ⟨declared.entities, fun entity listed field member => ?_, ?_,
    schemaFunction_suffix declared, fun {refusal? arguments expansion} given derived => ?_⟩
  · obtain ⟨source, -, taken⟩ := exists_of_mem_partners declared.entities listed
    have typed := type_of_ofDeclaration taken member
    refine ⟨typed, fun target ⟨stored, kind⟩ => ?_⟩
    have leads : field.type.target? = some target := by rw [FieldType.target?, kind]
    have related : field ∈ entity.relationships :=
      List.mem_filter.mpr ⟨member, by simp [FieldDeclaration.isRelationship, stored, leads]⟩
    refine ⟨?_, declared.known entity listed field related target leads⟩
    exact (FieldType.target?_eq_some_iff.mp (typed ▸ leads)).1
  · rw [ServiceDeclaration.isSome_schemaDescription?]
    exact forall₂_congr fun entity listed => isName_snakeCase (named.types entity listed)
  · rw [deriveService_of_readService given accepted] at derived
    obtain ⟨generated, coded, rfl⟩ := Option.map_eq_some_iff.mp derived
    obtain ⟨schema, described, starts⟩ := schemaCode_of_serviceCode? coded
    exact ⟨generated, coded,
      (schemaFunction_suffix declared described).isInfix.trans starts.isInfix, rfl⟩

/-- A module with references to the other entity, to their own entity, and at the end of a path. -/
private def referringText : String :=
  "mod library \x7b #[derive(Entity)] struct AuthorEntity \x7b #[id] id: String, "
    ++ "books: Vec<super::BookEntity>, mentor: Option<AuthorEntity> \x7d "
    ++ "#[derive(Entity)] struct BookEntity \x7b pages: Option<i32>, tags: Option<Vec<String>>, "
    ++ "author: AuthorEntity \x7d \x7d"

/-- A module with references of all kinds has a function with a statement for each, and gets it where
the code is read. -/
theorem referring_schema
    : ∃ tokens module service schema generated,
        Source.read? referringText = some tokens
        ∧ Module.read? tokens = some module
        ∧ module.Named
        ∧ readService none module = .ok (some service)
        ∧ service.schemaDescription? = some schema
        ∧ (∀ refusal? : Refusal,
            refusal? generated = none
            → deriveService refusal? [] module = some ⟨[], withCode module generated⟩)
        ∧ service.entities.flatMap (fun entity => entity.fields.filterMap (·.type.target?))
          = ["BookEntity", "AuthorEntity", "AuthorEntity"]
        ∧ schemaFunction service <:+ schema.schemaCode
        ∧ schemaFunction service <:+: generated := by
  have facts
      : (serviceOf? referringText).map (fun service =>
          (service.schemaDescription?.isSome, service.serviceCode?.isSome,
            service.entities.flatMap fun entity => entity.fields.filterMap (·.type.target?)))
        = some (true, true, ["BookEntity", "AuthorEntity", "AuthorEntity"]) := by
    decide +kernel
  obtain ⟨service, found, facts⟩ := Option.map_eq_some_iff.mp facts
  simp only [Prod.mk.injEq, Option.isSome_iff_exists] at facts
  obtain ⟨⟨schema, described⟩, ⟨code, coded⟩, targets⟩ := facts
  obtain ⟨tokens, module, lexed, parsed, accepted⟩ := exists_of_serviceOf? found
  have named := Module.named_of_text lexed parsed
  have derived (refusal? : Refusal) (read : refusal? code = none)
      : deriveService refusal? [] module = some ⟨[], withCode module code⟩ := by
    rw [deriveService_of_readService rfl accepted, coded, Option.map_some, itemsCode, read]
  obtain ⟨-, -, -, made, inside⟩ := schemaFunction_of_readService named accepted
  obtain ⟨generated, coded', inside, -⟩ := inside rfl (derived (fun _ => none) rfl)
  obtain rfl := Option.some.inj (coded.symm.trans coded')
  exact ⟨tokens, module, service, schema, code, lexed, parsed, named, accepted, described, derived,
    targets, made described, inside⟩

/-- A module with a structure of a raw name that is never raw in small letters. -/
private def unbindableText : String :=
  "mod library \x7b #[derive(Entity)] struct r#SELF \x7b id: String \x7d \x7d"

/-- An accepted module may have no schema, and is then turned into nothing. -/
theorem unbindable_isNone
    : ∃ tokens module service,
        Source.read? unbindableText = some tokens
        ∧ Module.read? tokens = some module
        ∧ module.Named
        ∧ readService none module = .ok (some service)
        ∧ service.schemaDescription? = none
        ∧ deriveService keywordRefusal? [] module = none := by
  have facts
      : (serviceOf? unbindableText).map (fun service =>
          (service.schemaDescription?.isNone, service.serviceCode?.isNone))
        = some (true, true) := by
    decide +kernel
  obtain ⟨service, found, facts⟩ := Option.map_eq_some_iff.mp facts
  simp only [Prod.mk.injEq, Option.isNone_iff_eq_none] at facts
  obtain ⟨undescribed, uncoded⟩ := facts
  obtain ⟨tokens, module, read, parsed, accepted⟩ := exists_of_serviceOf? found
  refine ⟨tokens, module, service, read, parsed, Module.named_of_text read parsed, accepted,
    undescribed, ?_⟩
  rw [deriveService_of_readService rfl accepted, uncoded]
  rfl

end EntityStore.Derive
