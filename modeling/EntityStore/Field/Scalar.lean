import EntityStore.Field.Shape

/-! Scalar field types.
A scalar has a storage type of its own, so it can be filtered and sorted by. Whole numbers of every
width are stored as one type and are read back only if they fit; floating point numbers are read
from every numeric value.
-/

namespace EntityStore

open Number

/-- The types of scalar fields. -/
inductive ScalarType where
  | bool
  | int8
  | int16
  | int32
  | int64
  | uint8
  | uint16
  | uint32
  | float32
  | float64
  | string
  | timestamp
  deriving DecidableEq, Repr

/-- A value of a scalar type. Whole numbers of every width are held as 64 bit numbers. -/
inductive Scalar where
  | bool (b : Bool)
  | integer (i : Int64)
  | float (x : Single)
  | double (x : Double)
  | string (s : String)
  | timestamp (t : Timestamp)
  deriving DecidableEq, Repr

namespace Scalar

/-- The stored value of a scalar. -/
def toValue : Scalar → Value
  | bool b => .bool b
  | integer i => .integer i
  | float x => .float x
  | double x => .double x
  | string s => .string s
  | timestamp t => .timestamp t

/-- The scalars are equal as values of their type: floating point numbers by what they stand
for. -/
def sameValue : Scalar → Scalar → Bool
  | float a, float b => a.datum.sameValue b.datum
  | double a, double b => a.datum.sameValue b.datum
  | a, b => a = b

end Scalar

namespace ScalarType

/-- The least and the greatest number of an integer type. -/
def range? : ScalarType → Option (Int × Int)
  | int8 => some (-0x80, 0x7f)
  | int16 => some (-0x8000, 0x7fff)
  | int32 => some (-0x80000000, 0x7fffffff)
  | int64 => some (-0x8000000000000000, 0x7fffffffffffffff)
  | uint8 => some (0, 0xff)
  | uint16 => some (0, 0xffff)
  | uint32 => some (0, 0xffffffff)
  | _ => none

/-- The number is one of an integer type. -/
def fits (type : ScalarType) (i : Int) : Bool :=
  match type.range? with
  | some (least, greatest) => least ≤ i && i ≤ greatest
  | none => false

/-- The storage type of a scalar type. -/
def storage : ScalarType → AttributeType
  | bool => .boolean
  | float32 => .float
  | float64 => .double
  | string => .string
  | timestamp => .timestamp
  | _ => .integer

/-- The scalars of the type have an order of their own. -/
def isOrdered : ScalarType → Bool
  | bool => false
  | string => false
  | _ => true

/-- The scalar is one of the type. -/
def admits (type : ScalarType) : Scalar → Bool
  | .bool _ => type = bool
  | .integer i => type.fits i.toInt
  | .float _ => type = float32
  | .double _ => type = float64
  | .string _ => type = string
  | .timestamp _ => type = timestamp

/-- The scalar that a field of the type starts with. -/
def default : ScalarType → Scalar
  | bool => .bool false
  | float32 => .float .zero
  | float64 => .double .zero
  | string => .string ""
  | timestamp => .timestamp ⟨0, 0, by decide, by decide⟩
  | _ => .integer 0

/-- The scalar that a stored value is read as. -/
def decode? : ScalarType → Value → Option Scalar
  | bool, .bool b => some (.bool b)
  | float32, .float x => some (.float x)
  | float32, .double x => some (.float (.ofDouble x))
  | float32, .integer i => some (.float (.ofInt i.toInt))
  | float64, .double x => some (.double x)
  | float64, .float x => some (.double (.ofSingle x))
  | float64, .integer i => some (.double (.ofInt i.toInt))
  | string, .string s => some (.string s)
  | timestamp, .timestamp t => some (.timestamp t)
  | type, .integer i => if type.fits i.toInt then some (.integer i) else none
  | _, _ => none

end ScalarType

/-- The attribute of a scalar field. -/
def Shaped.toAttribute (content : Shaped Scalar) : Option Value :=
  Id.run (content.encode (fun scalar => pure scalar.toValue))

/-- The content of a scalar field in an attribute. -/
def ScalarType.ofAttribute? (type : ScalarType) (shape : Shape) (stored : Option Value)
    : Option (Shaped Scalar) :=
  Id.run (shape.decode (fun value => OptionT.mk (pure (type.decode? value))) stored).run

end EntityStore
