import EntityStore.Entity.Update
import EntityStore.Proofs.Object.Lawful
import EntityStore.Service.Library
import EntityStore.Service.Zoo

/-! The services and what their models may rely on.
Both services can write to one store, so the entity types of a store are those of both. A batch is made
of objects of one identifiable type of a service.
-/

namespace EntityStore

/-- The services. -/
inductive Service where
  | library
  | zoo
  deriving DecidableEq, Repr

namespace Service

/-- The model of a service. -/
def model : Service → Model
  | library => Library.model
  | zoo => Zoo.model

/-- The entity types of all services. -/
def types : Model :=
  { name := "", entities := Library.model.entities ++ Zoo.model.entities }

/-- The model of a library is lawful. -/
theorem lawful_library : Library.model.Lawful types where
  named := by decide
  shared := by decide
  keys := by decide
  identifiers := by decide
  members := by decide

/-- The model of a zoo is lawful. -/
theorem lawful_zoo : Zoo.model.Lawful types where
  named := by decide
  shared := by decide
  keys := by decide
  identifiers := by decide
  members := by decide

/-- The models of the services are lawful. -/
theorem lawful (service : Service) : service.model.Lawful types := by
  cases service with
  | library => exact lawful_library
  | zoo => exact lawful_zoo

end Service

/-- A batch of objects of an identifiable entity type of a service. -/
structure Batch where
  service : Service
  type : EntityType
  objects : List Object
  known : type ∈ service.model.entities
  identifiable : type.isIdentifiable = true
  typed : ∀ object ∈ objects, object.fits service.model type = true

/-- The job that upserts a batch. -/
def Batch.job (batch : Batch) : Job Unit :=
  Object.upsert batch.service.model batch.type batch.objects

end EntityStore
