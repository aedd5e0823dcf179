import EntityStore.Field.Textual
import EntityStore.Predicate.Basic
import EntityStore.Schema.Basic
import EntityStore.Sort

/-! The transactional view of a job.
A job never writes to the committed records. What it writes is pending: a record that stands for the
committed one of its identifier, or the absence of one. Reading sees what is pending first, so a
job sees the arena that its commit would leave.
-/

namespace EntityStore

/-- What a job sees and what it has written. -/
structure Context where
  committed : Arena
  schema : Schema
  pending : Table ObjectId (Option Record)
  nextId : UInt64
  deriving DecidableEq

/-- The identifiers that a commit touches, each list in ascending order. -/
structure ChangeSet where
  inserted : List ObjectId
  updated : List ObjectId
  deleted : List ObjectId
  deriving DecidableEq, Repr

namespace ChangeSet

/-- Nothing is touched. -/
def isEmpty (changes : ChangeSet) : Bool :=
  changes.inserted.isEmpty && changes.updated.isEmpty && changes.deleted.isEmpty

/-- What was inserted, and then what was updated. -/
def upserted (changes : ChangeSet) : List ObjectId :=
  changes.inserted ++ changes.updated

end ChangeSet

namespace Context

/-- The view of committed records that nothing was written to. -/
def ofArena (committed : Arena) (schema : Schema) (nextId : UInt64) : Context :=
  { committed, schema, pending := .empty, nextId }

/-- The record of an identifier: the pending one, or else the committed one. -/
def record? (context : Context) (id : ObjectId) : Option Record :=
  match context.pending.get? id with
  | some pending => pending
  | none => context.committed.get? id

/-- The arena that committing would leave. -/
def view (context : Context) : Arena :=
  context.pending.entries.foldl (fun arena entry => arena.set entry.1 entry.2) context.committed

/-- The live records by ascending identifiers. -/
def live (context : Context) : List Record :=
  context.view.values

/-- An attribute of a record. -/
def value? (context : Context) (id : ObjectId) (key : String) : Option Value :=
  (context.record? id).bind (·.value? key)

/-- The members of a relation of a record. -/
def related (context : Context) (id : ObjectId) (key : String) : List ObjectId :=
  match context.record? id with
  | some record => record.related key
  | none => []

/-- The records of an entity that match, by ascending identifiers. -/
def matching (context : Context) (entity : String) (predicate : Predicate) : List Record :=
  context.live.filter
    (fun record => record.entity = entity && predicate.evaluate context.record? record)

/-- The records of an entity that match, in the order of the sort keys and else by ascending
identifiers. -/
def fetch (sorting : Sorting) (context : Context) (entity : String) (predicate : Predicate)
    (sort : List SortDescriptor)
    : Attempt (List Record) :=
  sortRecords sorting context.record? sort (context.matching entity predicate)

/-- Committing would change something. -/
def hasChanges (context : Context) : Bool :=
  context.pending.entries.any (fun entry => entry.2 ≠ context.committed.get? entry.1)

/-- What committing would touch. -/
def changes (context : Context) : ChangeSet :=
  let ids (touches : Option Record → Option Record → Bool) : List ObjectId :=
    (context.pending.entries.filter
      (fun entry => touches (context.committed.get? entry.1) entry.2)).map (·.1)
  { inserted := ids (fun before now => before.isNone && now.isSome)
    updated := ids (fun before now => before.isSome && now.isSome && before ≠ now)
    deleted := ids (fun before now => before.isSome && now.isNone) }

/-- Rewrites a live record. -/
def modify (context : Context) (id : ObjectId) (f : Record → Record) : Context :=
  match context.record? id with
  | some record => { context with pending := context.pending.insert id (some (f record)) }
  | none => context

/-- A new record of an entity with the defaults of its attributes. -/
def fresh (context : Context) (id : ObjectId) (entity : String) : Record :=
  match context.schema.entity? entity with
  | some descriptor =>
      descriptor.attributes.foldl
        (fun record attributeDescriptor =>
          match attributeDescriptor.defaultValue with
          | some value => record.setValue attributeDescriptor.name (some value)
          | none => record)
        (.new id entity)
  | none => .new id entity

/-- Inserts a record under the next identifier. The last identifier is never given out. -/
def insert (context : Context) (entity : String) : Attempt (ObjectId × Context) :=
  if context.nextId.toNat + 1 = UInt64.size then
    Attempt.panic "attempt to add with overflow"
  else
    let id := ObjectId.mk context.nextId
    pure (id,
      { context with
        nextId := context.nextId + 1
        pending := context.pending.insert id (some (context.fresh id entity)) })

/-- Writes an attribute, or clears it. Writing what is there is no change. -/
def setValue (context : Context) (id : ObjectId) (key : String) (value : Option Value)
    : Context :=
  match context.record? id with
  | some record =>
      if record.value? key = value then context
      else context.modify id (·.setValue key value)
  | none => context

/-- Replaces the members of a relation. The same members in another order are no change. -/
def setRelated (context : Context) (id : ObjectId) (key : String) (ids : List ObjectId)
    : Context :=
  if (context.related id key).isPerm ids then context
  else context.modify id (·.setRelated key ids)

/-- Forgets everything that was written. -/
def rollback (context : Context) : Context :=
  { context with pending := .empty }

/-- Takes a record out of sight. A record that was never committed leaves no trace. -/
def remove (context : Context) (id : ObjectId) : Context :=
  if context.committed.contains id then
    { context with pending := context.pending.insert id none }
  else { context with pending := context.pending.erase id }

/-- Takes an identifier out of every relation. -/
def detachAll (context : Context) (id : ObjectId) : Context :=
  (context.live.filter (·.references id)).foldl
    (fun context holder => context.modify holder.id (·.detach id)) context

/-- The members that are deleted with a record, in the order of its relationships. -/
def cascading (context : Context) (record : Record) : List ObjectId :=
  match context.schema.entity? record.entity with
  | some descriptor => descriptor.cascadingKeys.flatMap record.related
  | none => []

/-- Deletes a record and then what is deleted with it, to a certain depth. -/
def deleteWithin : Nat → ObjectId → Context → Context
  | 0, _, context => context
  | depth + 1, id, context =>
      match context.record? id with
      | none => context
      | some record =>
          (context.cascading record).foldl (fun context target => deleteWithin depth target context)
            ((context.remove id).detachAll id)

/-- Deletes a record, every relation's hold on it, and what is deleted with it. Every level takes a
live record away, so there are no more levels than live records. -/
def delete (context : Context) (id : ObjectId) : Context :=
  deleteWithin context.live.length id context

end Context

/-- A job: a computation over a context that may stop. -/
abbrev Job := StateT Context Attempt

namespace Job

/-- Reads from the context. -/
def read (f : Context → α) : Job α :=
  fun context => pure (f context, context)

/-- Writes to the context. -/
def write (f : Context → Context) : Job Unit :=
  fun context => pure ((), f context)

/-- Inserts a record of an entity. -/
def insert (entity : String) : Job ObjectId :=
  fun context => context.insert entity

/-- Gives up. -/
def panic (message : Option String) : Job α :=
  fun _ => .error (.panic message)

end Job

end EntityStore
