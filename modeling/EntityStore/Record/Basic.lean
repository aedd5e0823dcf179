import EntityStore.Table
import EntityStore.Value.Basic

/-! Records: attributes and relations of one stored object.
Records never hold each other. A relation is a list of identifiers that a source of records
resolves, so records may refer to each other in any way, to themselves, or to nothing.
-/

namespace EntityStore

open Std

/-- The identifier of a record within a store. -/
structure ObjectId where
  number : UInt64
  deriving DecidableEq, Repr, Inhabited

namespace ObjectId

instance : Ord ObjectId := ⟨fun a b => compare a.number b.number⟩

instance : TransOrd ObjectId where
  eq_swap := fun {a b} => @OrientedCmp.eq_swap UInt64 compare _ a.number b.number
  isLE_trans := fun {a b c} => @TransCmp.isLE_trans UInt64 compare _ a.number b.number c.number

instance : LawfulEqOrd ObjectId where
  compare_self := ReflOrd.compare_self (α := UInt64)
  eq_of_compare := fun {a b} h => by
    have : a.number = b.number :=
      @LawfulEqCmp.eq_of_compare UInt64 compare _ a.number b.number h
    cases a; cases b; simpa using this

/-- The text of an identifier. -/
def displayText (id : ObjectId) : String :=
  "#" ++ Number.digitText id.number.toNat

end ObjectId

/-- A stored object of an entity. -/
structure Record where
  id : ObjectId
  entity : String
  attributes : Table String Value
  relations : Table String (List ObjectId)
  deriving DecidableEq

namespace Record

/-- A record without attributes and relations. -/
def new (id : ObjectId) (entity : String) : Record :=
  { id, entity, attributes := .empty, relations := .empty }

/-- The attribute of a key. -/
def value? (record : Record) (key : String) : Option Value :=
  record.attributes.get? key

/-- The members of a relation, none where it is not set. -/
def related (record : Record) (key : String) : List ObjectId :=
  (record.relations.get? key).getD []

/-- Some relation of the record holds an identifier. -/
def references (record : Record) (target : ObjectId) : Bool :=
  record.relations.values.any (·.contains target)

/-- The record with an attribute set, or cleared. -/
def setValue (record : Record) (key : String) (value : Option Value) : Record :=
  { record with attributes := record.attributes.set key value }

/-- The record with the members of a relation; a relation without members is not kept. -/
def setRelated (record : Record) (key : String) (ids : List ObjectId) : Record :=
  { record with relations := record.relations.set key (if ids.isEmpty then none else some ids) }

/-- The record without an identifier in its relations. -/
def detach (record : Record) (target : ObjectId) : Record :=
  { record with
    relations := record.relations.filterMap (fun _ ids =>
      let ids := ids.filter (· ≠ target)
      if ids.isEmpty then none else some ids) }

end Record

/-- Where records are looked up by their identifiers. -/
abbrev RecordSource := ObjectId → Option Record

/-- The committed records of a store, each under its own identifier. -/
abbrev Arena := Table ObjectId Record

/-- An arena as a source of records. -/
def Arena.source (arena : Arena) : RecordSource :=
  arena.get?

end EntityStore
