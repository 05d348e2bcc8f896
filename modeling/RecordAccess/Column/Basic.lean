import RecordAccess.Text.Lowercase
import RecordAccess.Value
/-!
# Columns

Columns under a logical type that does not depend on the database, with the conversion of values to
the type of a column and the test whether a value fits into it.
-/

namespace RecordAccess

/-- The kind of values that a column holds. -/
inductive LogicalType where
  | int
  | float
  | text
  | bool
  | dateTime
  deriving DecidableEq, Inhabited

/-- A column of a table. -/
structure Column where
  name : String
  logicalType : LogicalType
  /-- The greatest length of a text, in characters. -/
  length : Option Nat
  min : Option Binary64
  max : Option Binary64
  /-- The value of the column in a new row, where it is a literal. -/
  initial : Option Value
  /-- The type as the database spells it. -/
  nativeType : String
  deriving DecidableEq, Inhabited

/-- The truth value that a word means, in any letter case. -/
def truthWord? (word : String) : Option Bool :=
  let known := lowercase word
  if known = "1" ∨ known = "true" then some true
  else if known = "0" ∨ known = "false" then some false
  else none

namespace LogicalType

/-- A value as a value of a logical type, where it is not one and has a counterpart there. -/
def convert? (type : LogicalType) (value : Value) : Option Value :=
  match type, value with
  | _, .null => none
  | .int, v => v.asInt?.map .int
  | .float, v => v.asFloat?.map .float
  | .bool, .text s => (truthWord? (trim s)).map .bool
  | .bool, v => v.asInt?.map fun n => .bool (n != 0)
  | .dateTime, .text s => some (.dateTime s)
  | .text, .int n => some (.text (Value.int n).sqlText)
  | .text, .float x => some (.text (Value.float x).sqlText)
  | .text, .bool b => some (.text (Value.bool b).sqlText)
  | _, _ => none

end LogicalType

namespace Column

/-- A value converted to the type of the column, or unchanged where it does not convert. -/
def coerce (column : Column) (value : Value) : Value :=
  (column.logicalType.convert? value).getD value

/-- Whether a number lies within the range of the column. -/
def inRange (column : Column) (x : Binary64) : Bool :=
  column.min.all (fun low => low.le x) && column.max.all (fun high => x.le high)

/-- Whether a value fits into the column. -/
def admits (column : Column) (value : Value) : Bool :=
  if value.isNull then true
  else
    match column.logicalType with
    | .int | .float => (column.coerce value).asFloat?.any column.inRange
    | .text =>
      match value with
      | .text s | .dateTime s => column.length.all fun longest => decide (s.length ≤ longest)
      | .binary _ => false
      | _ => true
    | .bool =>
      match column.coerce value with
      | .bool _ => true
      | _ => false
    | .dateTime => value.asText?.isSome

end Column
end RecordAccess
