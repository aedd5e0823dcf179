import EntityStore.Derive.Service
import EntityStore.Proofs.Json.Fields
import Mathlib.Data.List.Forall2

/-! The entities that declarations are accepted as.
An accepted declaration is a structure with named fields, and its entity has the same fields in the same
order: attributes say more about a field, but they change neither its name nor its type. The service
of an accepted module has all entities that the module declares, and they refer to each other only.
-/

namespace EntityStore.Derive

open Source

variable {source : NamedField} {reading : FieldReading}

-----------------------------------------------------------------------------------------
-- Fields
-----------------------------------------------------------------------------------------

/-- The field has the name and the type that it is declared with. -/
structure FieldDeclaration.DeclaredBy (field : FieldDeclaration) (source : NamedField) : Prop where
  name : field.name = source.name
  declared : field.declared = source.type
  type : field.type = .ofType source.type

/-- No attribute changes the name or the type of a field. -/
private theorem FieldReading.declared_take (declared : reading.field.DeclaredBy source)
    (self : Attribute)
    : (reading.take self).field.DeclaredBy source := by
  unfold take
  split
  · unfold takeId
    dsimp only
    split <;> exact ⟨declared.name, declared.declared, declared.type⟩
  split
  · unfold takeField
    split
    · exact ⟨declared.name, declared.declared, declared.type⟩
    · exact declared
  split
  · unfold takeRelation
    split
    · exact declared
    · split
      · exact ⟨declared.name, declared.declared, declared.type⟩
      · exact declared
  · exact declared

/-- A field that is accepted has the name and the type that it is declared with. -/
theorem FieldDeclaration.declared_ofSource {field : FieldDeclaration}
    (accepted : ofSource source = .ok field)
    : field.DeclaredBy source := by
  have read : ∀ (attributes : List Attribute) (reading : FieldReading),
      reading.field.DeclaredBy source
      → (attributes.foldl FieldReading.take reading).field.DeclaredBy source :=
    fun attributes reading declared =>
      List.foldlRecOn (motive := fun reading => reading.field.DeclaredBy source) attributes
        FieldReading.take declared (fun _ declared self _ => FieldReading.declared_take declared self)
  have start : (⟨plain source, []⟩ : FieldReading).field.DeclaredBy source := ⟨rfl, rfl, rfl⟩
  unfold ofSource at accepted
  dsimp only at accepted
  split at accepted
  · obtain rfl := Except.ok.inj accepted
    unfold FieldReading.finish
    split <;> exact read source.attributes _ start
  · contradiction

/-- A field is rejected with a problem at least. -/
private theorem FieldDeclaration.problems_ne_nil {problems : List Problem}
    (rejected : ofSource source = .error problems)
    : problems ≠ [] := by
  unfold ofSource at rejected
  dsimp only at rejected
  split at rejected
  · contradiction
  · next some =>
      obtain rfl := Except.error.inj rejected
      exact fun none => some (List.isEmpty_iff.mpr none)

/-- Where no field has a problem all of them are accepted.
Witness: induction on the fields; a field that is rejected has a problem.
-/
theorem forall₂_of_readFields {sources : List NamedField} {fields : List FieldDeclaration}
    (read : readFields sources = (fields, []))
    : List.Forall₂ (fun source field => FieldDeclaration.ofSource source = .ok field) sources fields
    := by
  obtain ⟨accepted, silent⟩ := Prod.mk.inj read
  induction sources generalizing fields with
  | nil =>
      subst accepted
      exact .nil
  | cons source sources ih =>
      rw [List.map_cons, List.flatMap_cons, List.append_eq_nil_iff] at silent
      cases first : FieldDeclaration.ofSource source with
      | error problems =>
          rw [first] at silent
          exact absurd silent.1 (FieldDeclaration.problems_ne_nil first)
      | ok field =>
          rw [List.map_cons, first] at accepted
          subst accepted
          exact .cons first (ih (Prod.ext rfl silent.2) rfl silent.2)

-----------------------------------------------------------------------------------------
-- Entities
-----------------------------------------------------------------------------------------

/-- The entity is that of a structure with named fields. -/
structure EntityDeclaration.DeclaredBy (entity : EntityDeclaration) (source : Declaration) : Prop where
  typeName : entity.typeName = source.name
  plain : source.generic = false
  name : entity.name = (entitySettings source.attributes).text.getD (defaultName source.name)
  fields
    : ∃ sources,
        source.body = .named sources
        ∧ List.Forall₂ (fun source field => FieldDeclaration.ofSource source = .ok field) sources
            entity.fields

/-- Only a structure with named fields has them. -/
private theorem body_of_namedFields {body : Body} {sources : List NamedField}
    (found : namedFields body = .ok sources)
    : body = .named sources := by
  unfold namedFields at found
  split at found
  · rw [Except.ok.inj found]
  all_goals contradiction

/-- An accepted declaration is a structure with named fields, each of which is accepted. -/
theorem EntityDeclaration.declared_ofDeclaration {source : Declaration} {entity : EntityDeclaration}
    (accepted : ofDeclaration source = .ok entity)
    : entity.DeclaredBy source := by
  unfold ofDeclaration at accepted
  cases found : namedFields source.body with
  | error problem =>
      simp only [found] at accepted
      contradiction
  | ok sources =>
      cases problems : (entitySettings source.attributes).problems with
      | cons problem others =>
          simp only [found, problems] at accepted
          contradiction
      | nil =>
          cases plain : source.generic with
          | true =>
              simp only [found, problems, plain] at accepted
              contradiction
          | false =>
              simp only [found, problems, plain, pure_bind, Bool.false_eq_true, if_false] at accepted
              cases read : readFields sources with
              | mk fields silent =>
                  simp only [read] at accepted
                  split at accepted
                  · next none =>
                      obtain rfl := Except.ok.inj accepted
                      obtain ⟨rfl, _⟩ := List.append_eq_nil_iff.mp none
                      exact ⟨rfl, plain, rfl, sources, body_of_namedFields found,
                        forall₂_of_readFields read⟩
                  · contradiction

-----------------------------------------------------------------------------------------
-- Services
-----------------------------------------------------------------------------------------

variable {service : ServiceDeclaration} {module : Module} {model : Option String}

/-- The declarations of the entities in a module. -/
def entitySources (module : Module) : List Declaration :=
  module.body.elim [] (·.items.filterMap entitySource?)

/-- The service is that of the module. -/
structure ServiceDeclaration.DeclaredBy (service : ServiceDeclaration) (module : Module)
    : Prop where
  name : service.module = module.name
  entities
    : List.Forall₂ (fun source entity => EntityDeclaration.ofDeclaration source = .ok entity)
        (entitySources module) service.entities
  /-- Every relation leads to an entity of the service. -/
  known
    : ∀ entity ∈ service.entities, ∀ field ∈ entity.relationships, ∀ target,
        field.type.target? = some target
        → ∃ other ∈ service.entities, other.typeName = target

/-- A result with a value has no problems. -/
theorem eq_ok_of_toOption {ε α : Type} {result : Except ε α} {value : α}
    (found : result.toOption = some value)
    : result = .ok value := by
  cases result with
  | error problem => simp [Except.toOption] at found
  | ok other => simpa [Except.toOption] using found

/-- Without a problem every relation leads to a known entity. -/
private theorem known_of_unknownTargets {name : String} {entities : List EntityDeclaration}
    (silent : unknownTargets name entities = []) {entity : EntityDeclaration}
    (listed : entity ∈ entities) {field : FieldDeclaration} (related : field ∈ entity.relationships)
    {target : String} (found : field.type.target? = some target)
    : ∃ other ∈ entities, other.typeName = target := by
  unfold unknownTargets at silent
  simp only [List.map_eq_nil_iff, List.filter_eq_nil_iff] at silent
  have known := silent target
    (List.mem_filterMap.mpr ⟨field, List.mem_flatMap.mpr ⟨entity, listed, related⟩, found⟩)
  simpa using known

/-- The service of an accepted module is its own. -/
theorem ServiceDeclaration.declared_of_readService
    (read : readService model module = .ok (some service))
    : service.DeclaredBy module := by
  unfold readService at read
  split at read
  · contradiction
  next body found =>
    split at read
    · cases read
    next entities entitiesRead =>
      dsimp only at read
      split at read
      next silent =>
        cases read
        have each := mapM_eq_some_iff.mp entitiesRead
        refine ⟨rfl, ?_, fun entity listed field related target leads =>
          known_of_unknownTargets (List.append_eq_nil_iff.mp silent).1 listed related leads⟩
        simp only [entitySources, found, Option.elim_some]
        exact each.imp fun source entity accepted => eq_ok_of_toOption accepted
      next => contradiction

/-- The service that the text of a module declares. -/
def serviceOf? (text : String) : Option ServiceDeclaration :=
  ((Source.read? text).bind Module.read?).bind fun module => (readService none module).toOption.join

/-- The text is that of an accepted module. -/
theorem exists_of_serviceOf? {text : String} (found : serviceOf? text = some service)
    : ∃ tokens module,
        Source.read? text = some tokens
        ∧ Module.read? tokens = some module
        ∧ readService none module = .ok (some service) := by
  obtain ⟨module, parsed, accepted⟩ := Option.bind_eq_some_iff.mp found
  obtain ⟨tokens, read, found⟩ := Option.bind_eq_some_iff.mp parsed
  exact ⟨tokens, module, read, found, eq_ok_of_toOption (Option.join_eq_some_iff.mp accepted)⟩

end EntityStore.Derive
