import EntityStore.Entity.Basic
import EntityStore.Predicate.Builder
import EntityStore.Sort

/-! Typed paths through the entity types of a model.
A typed path follows fields that refer to entity types and ends at a scalar field. Fields that are
not stored and textual fields cannot be filtered or sorted by.
-/

namespace EntityStore

namespace EntityType

/-- The stored field of a name. -/
def stored? (entity : EntityType) (name : String) : Option Field :=
  entity.fields.find? (fun field => field.key = name && !field.skipped)

end EntityType

namespace Model

/-- The path of names from an entity type to a scalar field, with the type of the scalar. -/
def leafFrom? (model : Model) : KeyPath → EntityType → List String → Option (KeyPath × ScalarType)
  | _, _, [] => none
  | path, entity, [name] => do
      let field ← entity.stored? name
      match field.kind with
      | .scalar type => some (path.step field.key field.shape.list, type)
      | _ => none
  | path, entity, name :: names => do
      let field ← entity.stored? name
      match field.kind with
      | .reference target =>
          model.leafFrom? (path.step field.key field.shape.list) (model.entity target) names
      | _ => none

/-- The path of names from an entity type of the model to a scalar field. -/
def leaf? (model : Model) (entity : String) (names : List String)
    : Option (KeyPath × ScalarType) :=
  model.leafFrom? .root (model.entity entity) names

/-- The predicate of a comparison at the end of a typed path. -/
def leafPredicate? (model : Model) (entity : String) (names : List String)
    (comparison : TypedComparison)
    : Option Predicate := do
  let (path, type) ← model.leaf? entity names
  if comparison.appliesTo type then some (comparison.predicate path) else none

/-- The sort key at the end of a typed path. -/
def leafSort? (model : Model) (entity : String) (names : List String) (ascending : Bool)
    : Option SortDescriptor := do
  let (path, _) ← model.leaf? entity names
  return { key := path.key, ascending }

end Model

end EntityStore
