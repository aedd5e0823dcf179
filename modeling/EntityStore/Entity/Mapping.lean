import EntityStore.Context.Basic
import EntityStore.Entity.Object

/-! Mapping records to objects.
A record maps to an object of an entity type when every attribute can be read and every required
member is there. A member that does not map is passed over where it is not required. Mapping follows
relations and does not end when a chain of them leads back to a record that it has started with.
-/

namespace EntityStore

/-- Why a record does not map to an object. -/
inductive MappingError where
  /-- An attribute holds what its field cannot. -/
  | coercion (entity field : String)
  /-- A required relation has no member. -/
  | missingRelation (entity field : String)
  /-- A required member does not exist. -/
  | missingRecord (id : ObjectId)
  deriving DecidableEq, Repr

namespace MappingError

/-- The text of an error. -/
def message : MappingError → String
  | coercion entity field =>
      entity ++ "." ++ field ++ ": stored value does not match the field type"
  | missingRelation entity field => entity ++ "." ++ field ++ ": required relationship is empty"
  | missingRecord id =>
      "record " ++ id.displayText ++ " referenced by a relationship does not exist"

end MappingError

/-- A mapping: an object or an error, unless it stops the whole computation. -/
abbrev Mapping := ExceptT MappingError Attempt

namespace Mapping

/-- A mapping that never ends. -/
def endless : Mapping α :=
  ExceptT.lift (.error .endless)

/-- What a mapping is good for: an object, or nothing where there is an error. -/
def object? (mapping : Mapping α) : Attempt (Option α) := do
  match ← mapping.run with
  | .ok object => pure (some object)
  | .error _ => pure none

/-- The object of a required member, the first one of a relation. -/
def required (source : RecordSource) (map : Record → Mapping Object) (owner key : String)
    (record : Record)
    : Mapping Object :=
  match record.related key with
  | [] => throw (.missingRelation owner key)
  | id :: _ =>
      match source id with
      | none => throw (.missingRecord id)
      | some member => map member

/-- The object of a member, if there is one and it maps. -/
def member? (source : RecordSource) (map : Record → Mapping Object) (id : ObjectId)
    : Attempt (Option Object) :=
  match source id with
  | none => pure none
  | some member => (map member).object?

/-- The objects of the members that map. -/
def many (source : RecordSource) (map : Record → Mapping Object)
    : List ObjectId → Attempt (List Object)
  | [] => pure []
  | id :: ids => do
      let object ← member? source map id
      let objects ← many source map ids
      pure (object.toList ++ objects)

/-- The object of the first member, if there is one and it maps. -/
def optional (source : RecordSource) (map : Record → Mapping Object) (key : String)
    (record : Record)
    : Attempt (List Object) :=
  many source map ((record.related key).take 1)

/-- The content of a field of a record. -/
def content (source : RecordSource) (map : String → Record → Mapping Object) (owner : String)
    (record : Record) (field : Field)
    : Mapping Content :=
  if field.skipped then pure field.defaultContent
  else
    let slot := record.value? field.key
    match field.kind with
    | .scalar type =>
        match type.ofAttribute? field.shape slot with
        | some content => pure (.scalar content)
        | none => throw (.coercion owner field.key)
    | .textual type => do
        match ← (type.ofAttribute? field.shape slot : Attempt _) with
        | some content => pure (.textual content)
        | none => throw (.coercion owner field.key)
    | .reference entity =>
        match field.shape with
        | ⟨false, false⟩ => do
            let object ← required source (map entity) owner field.key record
            pure (.members true [object])
        | ⟨true, false⟩ => do
            let objects ← (optional source (map entity) field.key record : Attempt _)
            pure (.members true objects)
        | ⟨_, true⟩ => do
            let objects ← (many source (map entity) (record.related field.key) : Attempt _)
            pure (.members true objects)

/-- The contents of the fields of a record, up to the first field that has none. -/
def contents (source : RecordSource) (map : String → Record → Mapping Object) (owner : String)
    (record : Record)
    : List Field → Mapping (List Content)
  | [] => pure []
  | field :: fields => do
      let first ← content source map owner record field
      let rest ← contents source map owner record fields
      pure (first :: rest)

/-- Maps a record to an object of an entity type, following relations to a certain depth. -/
def ofRecordWithin (model : Model) (source : RecordSource)
    : Nat → String → Record → Mapping Object
  | 0, _, _ => endless
  | depth + 1, entity, record => do
      let type := model.entity entity
      let contents ←
        contents source (ofRecordWithin model source depth) type.name record type.fields
      pure (.mk contents)

end Mapping

/-- The depth within which a mapping of a context's records ends if it ends at all: on a longer way
some record has to be mapped to one and the same entity type twice. -/
def Context.mappingDepth (context : Context) (model : Model) : Nat :=
  (context.live.length + 1) * (model.entities.length + 1)

/-- Maps a record of a context to an object of an entity type. -/
def Context.map (context : Context) (model : Model) (entity : String) (record : Record)
    : Mapping Object :=
  Mapping.ofRecordWithin model context.record? (context.mappingDepth model) entity record

end EntityStore
