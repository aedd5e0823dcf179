import EntityStore.Entity.Object
import EntityStore.Predicate.Path
import Mathlib.Data.List.Nodup

/-! What typed objects may rely on.
The models of applications obey laws that nothing in the definition of a model asks for. They are
stated on the lists of a model, so that they can be decided for each model there is.
-/

namespace EntityStore

/-- The entity type that a field refers to. -/
def Field.target? (field : Field) : Option String :=
  match field.kind with
  | .reference target => some target
  | _ => none

@[simp] theorem Field.target?_eq_some {field : Field} {target : String}
    : field.target? = some target ↔ field.kind = .reference target := by
  unfold target?
  split <;> simp_all

/-- Objects of the type can be members of relations: equality tells their contents apart, a record
maps without any member, and objects without an identifier are nothing but their stored contents.
-/
structure EntityType.Plain (type : EntityType) : Prop where
  exact
    : ∀ field ∈ type.fields, field.kind ≠ .scalar .float32 ∧ field.kind ≠ .scalar .float64
  optional
    : ∀ field ∈ type.fields, ∀ target ∈ field.target?, field.shape ≠ .one
  bare
    : type.isIdentifiable = false
      → ∀ field ∈ type.fields, field.skipped = false ∧ field.target? = none

instance (type : EntityType) : Decidable type.Plain :=
  decidable_of_iff
    ((∀ field ∈ type.fields, field.kind ≠ .scalar .float32 ∧ field.kind ≠ .scalar .float64)
      ∧ (∀ field ∈ type.fields, ∀ target ∈ field.target?, field.shape ≠ .one)
      ∧ (type.isIdentifiable = false
        → ∀ field ∈ type.fields, field.skipped = false ∧ field.target? = none))
    ⟨fun ⟨exact, optional, bare⟩ => ⟨exact, optional, bare⟩,
      fun plain => ⟨plain.exact, plain.optional, plain.bare⟩⟩

namespace Model

/-- The model has an entity type of the name. -/
def Knows (model : Model) (name : String) : Prop :=
  model.entity name ∈ model.entities

/-- The entity type of a name has that name, whether the model knows it or not. -/
theorem entity_name (model : Model) (name : String) : (model.entity name).name = name := by
  unfold entity
  cases found : model.entities.find? (·.name = name) with
  | none => rfl
  | some type => simpa using List.find?_some found

/-- The entity types of a model are told apart by name, also among all types that a store holds. The
keys of a type's fields are distinct, identifiers are texts stored under keys without dots, and members
are stored and are objects of plain types of the model.
-/
structure Lawful (model types : Model) : Prop where
  named : ∀ type ∈ model.entities, model.entity type.name = type
  shared : ∀ type ∈ model.entities, types.entity type.name = type
  keys : ∀ type ∈ model.entities, (type.fields.map (·.key)).Nodup
  identifiers
    : ∀ type ∈ model.entities, ∀ field ∈ type.fields,
        field.isId = true
        → field.skipped = false
          ∧ field.shape = .one
          ∧ field.kind = .scalar .string
          ∧ keyNames field.key = [field.key]
  members
    : ∀ type ∈ model.entities, ∀ field ∈ type.fields, ∀ target ∈ field.target?,
        field.skipped = false ∧ ∃ member ∈ model.entities, member.name = target ∧ member.Plain

namespace Lawful

variable {model types : Model} (lawful : model.Lawful types) {name : String}
include lawful

theorem knows {type : EntityType} (inside : type ∈ model.entities) : model.Knows type.name := by
  unfold Knows
  rw [lawful.named type inside]
  exact inside

theorem entity_eq (known : model.Knows name) : types.entity name = model.entity name := by
  have same := lawful.shared _ known
  rwa [model.entity_name] at same

theorem keys_nodup (known : model.Knows name)
    : ((model.entity name).fields.map (·.key)).Nodup :=
  lawful.keys _ known

/-- A key stands for one field only. -/
theorem key_inj (known : model.Knows name) {field other : Field}
    (inside : field ∈ (model.entity name).fields) (listed : other ∈ (model.entity name).fields)
    (same : field.key = other.key)
    : field = other :=
  List.inj_on_of_nodup_map (lawful.keys_nodup known) inside listed same

/-- What a field refers to is a plain type that the model knows. -/
theorem reference (known : model.Knows name) {field : Field}
    (inside : field ∈ (model.entity name).fields) {target : String}
    (kind : field.kind = .reference target)
    : field.skipped = false ∧ model.Knows target ∧ (model.entity target).Plain := by
  obtain ⟨stored, member, listed, rfl, plain⟩ :=
    lawful.members _ known field inside target (Field.target?_eq_some.mpr kind)
  refine ⟨stored, lawful.knows listed, ?_⟩
  rwa [lawful.named member listed]

end Lawful

end Model

end EntityStore
