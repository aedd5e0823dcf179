import EntityStore.Number.Binary
import EntityStore.Timestamp.Basic

/-! Stored attribute values.
Equality of values is identity of what is stored: floating point numbers are equal when their bits
are. The order of values goes by what they stand for, so numbers of different widths can be
compared, and values of unrelated types have no order.
-/

namespace EntityStore

open Number

/-- The storage type of an attribute. -/
inductive AttributeType where
  | boolean
  | integer
  | float
  | double
  | string
  | timestamp
  deriving DecidableEq, Repr

namespace AttributeType

/-- The name of a storage type. -/
def name : AttributeType → String
  | boolean => "boolean"
  | integer => "integer"
  | float => "float"
  | double => "double"
  | string => "string"
  | timestamp => "timestamp"

/-- All storage types. -/
def all : List AttributeType :=
  [boolean, integer, float, double, string, timestamp]

/-- The storage type of a name. -/
def ofName? (name : String) : Option AttributeType :=
  all.find? (fun attributeType => attributeType.name = name)

end AttributeType

/-- A stored value. -/
inductive Value where
  | bool (b : Bool)
  | integer (i : Int64)
  | float (x : Single)
  | double (x : Double)
  | string (s : String)
  | timestamp (t : Timestamp)
  | list (items : List Value)
  deriving Repr, Inhabited

namespace Value

mutual
/-- The values are the same value. -/
def same : Value → Value → Bool
  | .bool a, .bool b => a = b
  | .integer a, .integer b => a = b
  | .float a, .float b => a = b
  | .double a, .double b => a = b
  | .string a, .string b => a = b
  | .timestamp a, .timestamp b => a = b
  | .list a, .list b => sameAll a b
  | _, _ => false

/-- The lists hold the same values in the same order. -/
def sameAll : List Value → List Value → Bool
  | [], [] => true
  | a :: as, b :: bs => same a b && sameAll as bs
  | _, _ => false
end

mutual
theorem same_iff_eq (a b : Value) : same a b = true ↔ a = b := by
  cases a <;> cases b <;> simp [same]
  exact sameAll_iff_eq _ _

theorem sameAll_iff_eq (as bs : List Value) : sameAll as bs = true ↔ as = bs := by
  cases as with
  | nil => cases bs <;> simp [sameAll]
  | cons a as =>
      cases bs with
      | nil => simp [sameAll]
      | cons b bs => simp [sameAll, same_iff_eq a b, sameAll_iff_eq as bs]
end

instance : DecidableEq Value := fun a b => decidable_of_iff _ (same_iff_eq a b)

/-- What a number of any width stands for; whole numbers are rounded to 64 bit numbers. -/
def numeric? : Value → Option Datum
  | .integer i => some (Double.ofInt i.toInt).datum
  | .float x => some x.datum
  | .double x => some x.datum
  | _ => none

mutual
/-- The order of two values, if they have one. Whole numbers are compared exactly with each
other, and lists by the first items that differ. -/
def compare? : Value → Value → Option Ordering
  | .bool a, .bool b => some (compare a b)
  | .string a, .string b => some (compare a b)
  | .timestamp a, .timestamp b => some (a.order b)
  | .integer a, .integer b => some (compare a.toInt b.toInt)
  | .list a, .list b => compareAll? a b
  | a, b =>
      match numeric? a, numeric? b with
      | some x, some y => x.compare? y
      | _, _ => none

/-- The order of two lists of values, where a list comes after its beginnings. -/
def compareAll? : List Value → List Value → Option Ordering
  | [], [] => some .eq
  | [], _ :: _ => some .lt
  | _ :: _, [] => some .gt
  | a :: as, b :: bs =>
      match compare? a b with
      | some .eq => compareAll? as bs
      | unequal => unequal
end

/-- The values stand for the same thing, whatever the widths of numbers. -/
def looselyEquals (a b : Value) : Bool :=
  a.compare? b = some .eq

/-- The storage type of a value that is no list. -/
def attributeType? : Value → Option AttributeType
  | .bool _ => some .boolean
  | .integer _ => some .integer
  | .float _ => some .float
  | .double _ => some .double
  | .string _ => some .string
  | .timestamp _ => some .timestamp
  | .list _ => none

/-- The text of a string. -/
def text? : Value → Option String
  | .string s => some s
  | _ => none

end Value

end EntityStore
