import EntityStore.Record.Basic

/-! Key paths and the slots they reach.
A key names relations and, last, an attribute, with dots between them. From a record it reaches the
records that are related step by step, and the slots of the attribute there: each item of a list is
a slot, and a record without the attribute has one empty slot.
-/

namespace EntityStore

/-- The pieces of a text between dots. -/
def dotted : List Char → List (List Char)
  | [] => [[]]
  | c :: rest =>
      if c = '.' then [] :: dotted rest
      else match dotted rest with
        | piece :: pieces => (c :: piece) :: pieces
        | [] => [[c]]

/-- The names along a key. -/
def keyNames (key : String) : List String :=
  (dotted key.toList).map String.ofList

/-- The relations that a key follows. -/
def keyRelations (key : String) : List String :=
  (keyNames key).dropLast

/-- The attribute that a key ends in. -/
def keyAttribute (key : String) : String :=
  (keyNames key).getLast?.getD ""

/-- A key with one more name, which is the name alone where there was no key. -/
def joinKey (key name : String) : String :=
  if key.isEmpty then name else key ++ "." ++ name

/-- The records that are related to others along relations, as far as the source knows them. -/
def reachRecords (source : RecordSource) : List String → List Record → List Record
  | [], records => records
  | relation :: relations, records =>
      reachRecords source relations
        (records.flatMap (fun record => (record.related relation).filterMap source))

/-- The slots of an attribute of a record. -/
def slots (key : String) (record : Record) : List (Option Value) :=
  match record.value? key with
  | some (.list items) => items.map some
  | slot => [slot]

/-- The slots that a key reaches from a record. -/
def reach (source : RecordSource) (key : String) (record : Record) : List (Option Value) :=
  (reachRecords source (keyRelations key) [record]).flatMap (slots (keyAttribute key))

/-- The value in the first slot that a key reaches. -/
def firstReached? (source : RecordSource) (key : String) (record : Record) : Option Value :=
  (reach source key record).head?.join

end EntityStore
