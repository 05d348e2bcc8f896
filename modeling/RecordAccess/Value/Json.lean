import RecordAccess.Json.Text
import RecordAccess.Json.Reader
import RecordAccess.Value
/-!
# Values as JSON

The JSON form of cell values and rows. It does not tell dates from other text, and bytes become
text; numbers that are not finite become null.
-/

namespace RecordAccess

namespace Value

/-- The JSON value of a cell. -/
def toJson : Value → Json
  | null => .null
  | bool b => .bool b
  | int n => .int n.toInt
  | float x => .ofBinary64 x
  | text s => .string s
  | dateTime s => .string s
  | binary bytes => .string ("0x" ++ Hex.encode bytes)

/-- The cell value of a JSON value. Integers beyond 64 signed bits become floating point, and arrays
and objects become their compact text. -/
def ofJson : Json → Value
  | .null => null
  | .bool b => bool b
  | .int n =>
    match int64? n with
    | some i => int i
    | none => float (.ofInt n)
  | .float x => float x
  | .string s => text s
  | other => text other.compact

/-- The cell value that a JSON text denotes. -/
def ofJsonText? (source : String) : Option Value := (Json.ofText? source).map ofJson

end Value

/-- The JSON object of an ordered map, in its order. -/
def OrderedMap.toJson {α : Type} (encode : α → Json) (m : OrderedMap α) : Json :=
  .object (m.entries.map fun (key, value) => (key, encode value))

/-- The JSON object of a row. -/
def Row.toJson (row : Row) : Json := OrderedMap.toJson Value.toJson row

end RecordAccess
