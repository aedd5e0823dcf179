import EntityStore.Field.Shape
import EntityStore.Number.Text

/-! Textual field types.
A field of a type outside the scalar types is stored as text. Reading a text may fail, and for some
types reading or writing may stop the whole computation.
-/

namespace EntityStore

/-- Why a computation stops without an answer. -/
inductive Abort where
  /-- It gave up, with a message or without one. -/
  | panic (message : Option String)
  /-- It follows a chain of records that never ends. -/
  | endless
  deriving DecidableEq, Repr

/-- A computation that answers or stops. -/
abbrev Attempt := Except Abort

/-- Gives up with a message. -/
def Attempt.panic (message : String) : Attempt α :=
  .error (.panic (some message))

/-- The formats of books. There is no text for the last one. -/
inductive BookFormat where
  | paperback
  | ebook
  | bomb
  deriving DecidableEq, Repr

/-- The types of textual fields. -/
inductive TextualType where
  | bool
  | uint64
  | int128
  | format
  deriving DecidableEq, Repr

/-- A value of a textual type. -/
inductive Textual where
  | bool (b : Bool)
  | integer (i : Int)
  | format (f : BookFormat)
  deriving DecidableEq, Repr

namespace TextualType

/-- The least and the greatest number of an integer type. -/
def range? : TextualType → Option (Int × Int)
  | uint64 => some (0, 0xffffffffffffffff)
  | int128 => some (-0x80000000000000000000000000000000, 0x7fffffffffffffffffffffffffffffff)
  | _ => none

/-- The number is one of an integer type. -/
def fits (type : TextualType) (i : Int) : Bool :=
  match type.range? with
  | some (least, greatest) => least ≤ i && i ≤ greatest
  | none => false

/-- The value is one of the type. -/
def admits (type : TextualType) : Textual → Bool
  | .bool _ => type = bool
  | .integer i => type.fits i
  | .format _ => type = format

/-- The value that a field of the type starts with. -/
def default : TextualType → Textual
  | bool => .bool false
  | uint64 => .integer 0
  | int128 => .integer 0
  | format => .format .paperback

/-- The number that decimal digits stand for; at least one digit. -/
def magnitude? (digits : List Char) : Option Nat :=
  if digits.isEmpty || digits.any (fun c => c < '0' || '9' < c) then none
  else some (digits.foldl (fun n c => 10 * n + (c.toNat - 48)) 0)

/-- The number that a text with or without a sign stands for. A minus is no sign of a type without
negative numbers. -/
def parseInteger? (type : TextualType) (text : String) : Option Int := do
  let negatives := match type with
    | uint64 => false
    | _ => true
  let i : Int ←
    match text.toList with
    | '+' :: digits => (magnitude? digits).map Int.ofNat
    | '-' :: digits => if negatives then (magnitude? digits).map (fun n => -(n : Int)) else none
    | digits => (magnitude? digits).map Int.ofNat
  if type.fits i then some i else none

/-- The value that a text is read as, none where it is not the text of one. -/
def parse (type : TextualType) (text : String) : OptionT Attempt Textual :=
  match type with
  | bool =>
      if text = "true" then pure (.bool true)
      else if text = "false" then pure (.bool false)
      else failure
  | format =>
      if text = "paperback" then pure (.format .paperback)
      else if text = "ebook" then pure (.format .ebook)
      else if text = "bomb" then OptionT.lift (Attempt.panic "bomb format")
      else failure
  | type =>
      match type.parseInteger? text with
      | some i => pure (.integer i)
      | none => failure

/-- The value that a stored value is read as. -/
def decode (type : TextualType) : Value → OptionT Attempt Textual
  | .string text => type.parse text
  | _ => failure

end TextualType

/-- The text of a value. -/
def Textual.print : Textual → Attempt String
  | .bool b => pure (if b then "true" else "false")
  | .integer i => pure (Number.integerText i)
  | .format .paperback => pure "paperback"
  | .format .ebook => pure "ebook"
  | .format .bomb => Attempt.panic "format bomb"

/-- The attribute of a textual field. -/
def Shaped.toTextAttribute (content : Shaped Textual) : Attempt (Option Value) :=
  content.encode (fun textual => Value.string <$> textual.print)

/-- The content of a textual field in an attribute. -/
def TextualType.ofAttribute? (type : TextualType) (shape : Shape) (stored : Option Value)
    : Attempt (Option (Shaped Textual)) :=
  (shape.decode type.decode stored).run

end EntityStore
