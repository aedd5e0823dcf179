import EntityStore.Entity.Mapping

/-! Writing objects into records.
Relations are never rebuilt blindly. The members that a relation has are matched with the objects it
is to have: an equal member stays as it is, a member with the same identifier is written over, and
for anything else a new record is inserted. Members that no object claims leave the relation and are
deleted, unless they are to be kept. Where members and objects agree from the start nothing is
written at all.
-/

namespace EntityStore

/-- A member of a relation, with the object it maps to, if it does. -/
structure Member where
  id : ObjectId
  object? : Option Object

namespace Member

/-- The member maps to an object that equals a given one. -/
def equals (object : Object) (member : Member) : Bool :=
  member.object?.any (fun mapped => mapped.equals object)

/-- The member maps to an object with the identifier of a given one. -/
def identifies (entity : EntityType) (object : Object) (member : Member) : Bool :=
  match object.identity? entity with
  | some identity => member.object?.bind (·.identity? entity) = some identity
  | none => false

/-- The first member that passes a test, and the others in their order. -/
def take? (test : Member → Bool) : List Member → Option (Member × List Member)
  | [] => none
  | member :: members =>
      if test member then some (member, members)
      else (take? test members).map (fun (found, rest) => (found, member :: rest))

/-- The items without the one at a position, where the last item takes its place. -/
def swapRemove (items : List α) (position : Nat) : List α :=
  match items.getLast? with
  | some last => (items.set position last).dropLast
  | none => []

/-- Every object claims one of its own out of a pool that is the same. -/
def claimAll (same : α → α → Bool) : List α → List α → Bool
  | [], _ => true
  | object :: objects, pool =>
      match pool.findIdx? (fun candidate => same candidate object) with
      | some position => claimAll same objects (swapRemove pool position)
      | none => false

/-- The members all map, and what they map to already is the objects: in the same order, or in any
where the order does not matter. -/
def unchanged (same : Object → Object → Bool) (unordered : Bool) (members : List Member)
    (objects : List Object)
    : Bool :=
  members.length = objects.length
    && match members.mapM (·.object?) with
      | some mapped =>
          if unordered then claimAll same objects mapped
          else (mapped.zip objects).all (fun (candidate, object) => same candidate object)
      | none => false

/-- The members of a relation with the objects they map to. -/
def ofIds (model : Model) (entity : String) (context : Context)
    : List ObjectId → Attempt (List Member)
  | [] => pure []
  | id :: ids => do
      let object? ← Mapping.member? context.record? (context.map model entity) id
      let members ← ofIds model entity context ids
      pure (⟨id, object?⟩ :: members)

end Member

namespace Object

/-- Brings a relation to hold given objects, where `same` tells which objects are equal, and `settle`
turns the current members into the ones that are left over and the identifiers of the objects. -/
def reconcile (same : Object → Object → Bool) (model : Model) (entity : String) (owner : ObjectId)
    (key : String) (objects : List Object) (unordered deleteOld : Bool)
    (settle : List Member → Job (List Member × List ObjectId))
    : Job Unit := do
  let context ← get
  let members ← (Member.ofIds model entity context (context.related owner key) : Attempt _)
  if Member.unchanged same unordered members objects then pure ()
  else
    let (left, ids) ← settle members
    Job.write (·.setRelated owner key ids)
    if deleteOld then
      Job.write (fun context => left.foldl (fun context member => context.delete member.id) context)

mutual
/-- Writes an object into a record. -/
def write (model : Model) (entity : String) : Object → ObjectId → Job Unit
  | mk contents, id => writeContents model (model.entity entity).fields contents id

/-- Writes the contents of fields into a record, field by field. -/
def writeContents (model : Model) : List Field → List Content → ObjectId → Job Unit
  | field :: fields, content :: contents, id => do
      writeContent model field content id
      writeContents model fields contents id
  | _, _, _ => pure ()

/-- Writes the content of a field into a record, unless the field is not stored. -/
def writeContent (model : Model) (field : Field) : Content → ObjectId → Job Unit
  | .scalar content, id =>
      if field.skipped then pure ()
      else Job.write (·.setValue id field.key content.toAttribute)
  | .textual content, id =>
      if field.skipped then pure ()
      else do
        let stored ← (content.toTextAttribute : Attempt _)
        Job.write (·.setValue id field.key stored)
  | .members _ objects, id =>
      match field.kind with
      | .reference entity =>
          if field.skipped then pure ()
          else
            reconcile equals model entity id field.key objects field.shape.list
              (!field.keepOrphans) (settle model entity objects)
      | _ => pure ()

/-- Finds or makes a record for each object, out of the members that are still unclaimed. -/
def settle (model : Model) (entity : String)
    : List Object → List Member → Job (List Member × List ObjectId)
  | [], members => pure (members, [])
  | object :: objects, members => do
      let (id, members) ←
        match Member.take? (Member.equals object) members with
        | some (member, rest) => pure (member.id, rest)
        | none => do
            let (id, rest) ←
              match Member.take? (Member.identifies (model.entity entity) object) members with
              | some (member, rest) => pure (member.id, rest)
              | none => do
                  let id ← Job.insert (model.entity entity).name
                  pure (id, members)
            write model entity object id
            pure (id, rest)
      let (left, ids) ← settle model entity objects members
      pure (left, id :: ids)
end

/-- Brings a relation to hold one object or none. -/
def storeOne (model : Model) (entity : String) (owner : ObjectId) (key : String)
    (object? : Option Object) (deleteOld : Bool)
    : Job Unit :=
  let objects := object?.toList
  reconcile equals model entity owner key objects false deleteOld (settle model entity objects)

/-- Brings a relation to hold given objects, whose order does not matter. -/
def storeMany (model : Model) (entity : String) (owner : ObjectId) (key : String)
    (objects : List Object) (deleteOld : Bool)
    : Job Unit :=
  reconcile equals model entity owner key objects true deleteOld (settle model entity objects)

/-- The records of an entity type by the identifiers that they carry, where the youngest record of an
identifier counts. -/
def existing (entity : EntityType) (idKey : String) (identifiers : List String)
    (context : Context)
    : Table String ObjectId :=
  let filter : Predicate :=
    .compare idKey false (.isIn (identifiers.map .string))
  Table.ofList
    ((context.matching entity.name filter).filterMap
      (fun record => do return (← (← record.value? idKey).text?, record.id)))

/-- Writes the objects of a batch in order, each over the record of its identifier. -/
def upsertAll (model : Model) (entity : EntityType)
    : List Object → Table String ObjectId → Job Unit
  | [], _ => pure ()
  | object :: objects, known => do
      let identifier := (object.identity? entity).getD ""
      let (id, known) ←
        match known.get? identifier with
        | some id => pure (id, known)
        | none => do
            let id ← Job.insert entity.name
            pure (id, known.insert identifier id)
      write model entity.name object id
      upsertAll model entity objects known

/-- Inserts or updates the objects of a batch. The records of their identifiers are looked up once,
before anything is written. -/
def upsert (model : Model) (entity : EntityType) (objects : List Object) : Job Unit := do
  let context ← get
  let idKey := (entity.idField?.map (·.key)).getD ""
  let identifiers := objects.map (fun object => (object.identity? entity).getD "")
  upsertAll model entity objects (existing entity idKey identifiers context)

end Object

end EntityStore
