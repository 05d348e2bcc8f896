import RecordAccess.Number.Reading
import RecordAccess.Number.Shortest
import RecordAccess.OrderedMap
import RecordAccess.Text.Blank
import RecordAccess.Text.Bytes
/-!
# Cell Values

The values of table cells, as read from a database or compared with its columns, their views as
numbers and text, and the equality under which a change counts as none.
-/

namespace RecordAccess

/-- The value of a cell. -/
inductive Value where
  | null
  | bool (value : Bool)
  | int (value : Int64)
  | float (value : Binary64)
  | text (value : String)
  | dateTime (value : String)
  | binary (value : List UInt8)
  deriving DecidableEq, Inhabited

/-- A row: the values of columns, in column order. -/
abbrev Row := OrderedMap Value

namespace Value

/-- Whether a value is null. -/
def isNull : Value → Bool
  | null => true
  | _ => false

/--
The integer that a value denotes: numbers without a fraction and decimal texts convert, and a number
beyond 64 bits becomes the nearest integer within.
-/
def asInt? : Value → Option Int64
  | int n => some n
  | bool b => some (if b then 1 else 0)
  | float x => x.toInt?.map saturate64
  | text s => readInt64? (trimChars s.toList)
  | _ => none

/-- The floating-point number that a value denotes. -/
def asFloat? : Value → Option Binary64
  | int n => some (.ofInt n.toInt)
  | float x => some x
  | text s => Binary64.ofText? (trimChars s.toList)
  | _ => none

/-- The text that a value holds. -/
def asText? : Value → Option String
  | text s => some s
  | dateTime s => some s
  | _ => none

/--
Numbers in SQL and in output have as many digits as it takes to read them back and never an
exponent.
-/
def floatFormat : FloatFormat where
  tie := .away
  positional _ := true
  pointZero := false
  plusSign := false
  nan := "NaN"
  infinity := "inf"

/-- The text of a value within the quotes of a literal, before it is escaped. -/
def sqlText : Value → String
  | null => ""
  | bool b => if b then "1" else "0"
  | int n => integerText n.toInt
  | float x => floatFormat.text x
  | text s => s
  | dateTime s => s
  | binary bytes => Hex.encode bytes

/-- The text of a value for people. -/
def display : Value → String
  | null => "NULL"
  | binary bytes => "0x" ++ Hex.encode bytes
  | value => value.sqlText

/--
Equality of values: integers and floating-point numbers are compared as floating-point numbers, and
texts are equal whether or not they are dates.
-/
def same : Value → Value → Bool
  | null, null => true
  | bool a, bool b => a == b
  | int a, int b => a == b
  | float a, float b => a.same b
  | int a, float b => (Binary64.ofInt a.toInt).same b
  | float a, int b => (Binary64.ofInt b.toInt).same a
  | text a, text b => a == b
  | text a, dateTime b => a == b
  | dateTime a, text b => a == b
  | dateTime a, dateTime b => a == b
  | binary a, binary b => a == b
  | _, _ => false

end Value
end RecordAccess
