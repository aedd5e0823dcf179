import EntityStore.Proofs.Service.Lawful
import EntityStore.Proofs.Write.Keeps

/-! Which entity types of the services reach themselves.
The types stand at levels, and a field refers to a type of a lower level, apart from the keepers, who
refer to keepers.
-/

namespace EntityStore

/-- A type that refers to another one is one of the model. -/
theorem Model.Refers.listed {model : Model} {source target : String}
    (refers : model.Refers source target)
    : ∃ type ∈ model.entities, type.name = source ∧ ∃ field ∈ type.fields, target ∈ field.target? := by
  obtain ⟨field, inside, kind⟩ := refers
  unfold Model.entity at inside
  cases found : model.entities.find? (·.name = source) with
  | none => simp [found] at inside
  | some type =>
      rw [found, Option.getD_some] at inside
      exact ⟨type, List.mem_of_find?_eq_some found, by simpa using List.find?_some found, field, inside,
        Field.target?_eq_some.mpr kind⟩

namespace Service

/-- The level of an entity type. -/
def level (name : String) : Nat :=
  if name = Library.author.name ∨ name = Zoo.animal.name then 3
  else if name = Library.book.name ∨ name = Zoo.toy.name then 2
  else if name = Zoo.keeper.name then 1
  else 0

/-- A field refers to a lower level, or is the one of the keepers. -/
theorem level_of_refers (service : Service) {source target : String}
    (refers : service.model.Refers source target)
    : level target < level source ∨ (source = Zoo.keeper.name ∧ target = Zoo.keeper.name) := by
  have lower : ∀ type ∈ service.model.entities, ∀ field ∈ type.fields, ∀ target ∈ field.target?,
      level target < level type.name
      ∨ (type.name = Zoo.keeper.name ∧ target = Zoo.keeper.name) := by
    cases service <;> decide
  obtain ⟨type, listed, rfl, field, inside, kind⟩ := refers.listed
  exact lower type listed field inside target kind

/-- Whatever a type reaches stands at a lower level, unless keepers reach keepers. -/
private theorem level_of_reaches (service : Service) {source target : String}
    (way : Relation.TransGen service.model.Refers source target)
    : level target < level source ∨ (source = Zoo.keeper.name ∧ target = Zoo.keeper.name) := by
  induction way with
  | single refers => exact service.level_of_refers refers
  | tail _ refers ih =>
      rcases ih with below | ⟨same, same'⟩
      · rcases service.level_of_refers refers with below' | ⟨same, same'⟩
        · exact Or.inl (Nat.lt_trans below' below)
        · exact Or.inl (by rwa [same', ← same])
      · rcases service.level_of_refers refers with below' | ⟨_, same''⟩
        · exact Or.inl (by rwa [same, ← same'])
        · exact Or.inr ⟨same, same''⟩

/-- No type but that of the keepers reaches itself. -/
theorem keeper_of_reaches_self (service : Service) {type : EntityType}
    (known : type ∈ service.model.entities)
    (way : Relation.TransGen service.model.Refers type.name type.name)
    : service = .zoo ∧ type = Zoo.keeper := by
  have keepers : ∀ type ∈ service.model.entities,
      type.name = Zoo.keeper.name → service = .zoo ∧ type = Zoo.keeper := by
    cases service <;> decide
  rcases service.level_of_reaches way with below | ⟨same, _⟩
  · exact absurd below (Nat.lt_irrefl _)
  · exact keepers type known same

end Service

end EntityStore
