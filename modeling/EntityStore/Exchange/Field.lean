import EntityStore.Exchange.Value
import EntityStore.Field.Scalar
import EntityStore.Field.Textual

/-! Exchange documents of field contents.
The content of a field is written plainly, for the field's type says what it is: truth values, texts
and whole numbers as such, floating point numbers by their bits, and 128 bit numbers as text.
-/

namespace EntityStore.Exchange

open Json Number

/-- The names of the scalar types. -/
def scalarNames : List (String × ScalarType) :=
  [("bool", .bool), ("i8", .int8), ("i16", .int16), ("i32", .int32), ("i64", .int64),
    ("u8", .uint8), ("u16", .uint16), ("u32", .uint32), ("f32", .float32), ("f64", .float64),
    ("string", .string), ("timestamp", .timestamp)]

/-- The scalar type of a name. -/
def scalarType? (name : String) : Option ScalarType :=
  scalarNames.lookup name

/-- The scalar of a type in a document. -/
def readScalar? (type : ScalarType) (json : Json) : Option Scalar := do
  match type with
  | .bool => return .bool (← json.toBool?)
  | .float32 => return .float (← Single.ofWordText? (← json.toText?))
  | .float64 => return .double (← Double.ofWordText? (← json.toText?))
  | .string => return .string (← json.toText?)
  | .timestamp => return .timestamp (← readTimestamp? json)
  | _ =>
      let i ← json.toInt?
      if type.fits i then some (.integer (.ofInt i)) else none

/-- The document of a scalar. -/
def writeScalar : Scalar → Json
  | .bool b => .bool b
  | .integer i => .ofInt i.toInt
  | .float x => .text x.wordText
  | .double x => .text x.wordText
  | .string s => .text s
  | .timestamp t => writeTimestamp t

/-- The names of the textual types. -/
def textualNames : List (String × TextualType) :=
  [("bool", .bool), ("u64", .uint64), ("i128", .int128), ("format", .format)]

/-- The textual type of a name. -/
def textualType? (name : String) : Option TextualType :=
  textualNames.lookup name

/-- The names of the formats. -/
def formatNames : List (String × BookFormat) :=
  [("paperback", .paperback), ("ebook", .ebook), ("bomb", .bomb)]

/-- The name of a format. -/
def formatName : BookFormat → String
  | .paperback => "paperback"
  | .ebook => "ebook"
  | .bomb => "bomb"

/-- The value of a textual type in a document. -/
def readTextual? (type : TextualType) (json : Json) : Option Textual := do
  match type with
  | .bool => return .bool (← json.toBool?)
  | .uint64 =>
      let i ← json.toInt?
      if type.fits i then some (.integer i) else none
  | .int128 => return .integer (← type.parseInteger? (← json.toText?))
  | .format => return .format (← formatNames.lookup (← json.toText?))

/-- The document of a value of a textual type. -/
def writeTextual (type : TextualType) : Textual → Json
  | .bool b => .bool b
  | .integer i => if type = .int128 then .text (integerText i) else .ofInt i
  | .format format => .text (formatName format)

/-- The content of a shape in a document. -/
def readShaped? (readItem? : Json → Option α) (shape : Shape) (json : Json)
    : Option (Shaped α) := do
  let readItems? (json : Json) : Option (List α) := do (← json.elements?).mapM readItem?
  match shape with
  | ⟨false, false⟩ => return .one (← readItem? json)
  | ⟨true, false⟩ => return .option (← json.toOption? readItem?)
  | ⟨false, true⟩ => return .many (← readItems? json)
  | ⟨true, true⟩ => return .optionMany (← json.toOption? readItems?)

/-- The document of a content. -/
def writeShaped (writeItem : α → Json) : Shaped α → Json
  | .one item => writeItem item
  | .option item => .ofOption (item.map writeItem)
  | .many items => .array (items.map writeItem)
  | .optionMany items => .ofOption (items.map (fun items => .array (items.map writeItem)))

end EntityStore.Exchange
