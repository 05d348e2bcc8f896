import RecordAccess.Text.Parts
import RecordAccess.Value.Json
/-!
# Exported Rows

Rows as comma-separated values and as one JSON document. A separated field is quoted if it holds a
comma, a quote or a line end; a record that would be an empty line is written as an empty quoted
field.
-/

namespace RecordAccess.Export

/-- Whether a character makes a field need quotes. -/
def needsQuotes (c : Char) : Bool := c = ',' || c = '"' || c = '\r' || c = '\n'

/-- A field of a record. -/
def fieldChars (field : List Char) : List Char :=
  if field.any needsQuotes then '"' :: (doubled '"' field ++ ['"']) else field

/-- The fields of a record, parted by commas. -/
def fieldsChars : List (List Char) → List Char
  | [] => []
  | [field] => fieldChars field
  | field :: rest => fieldChars field ++ ',' :: fieldsChars rest

/-- A record with its line end. -/
def recordChars (fields : List (List Char)) : List Char :=
  let line := fieldsChars fields
  (if line.isEmpty then ['"', '"'] else line) ++ ['\n']

/-- The fields of a row under some column names: a missing or null value is an empty field. -/
def rowFields (names : List String) (row : Row) : List (List Char) :=
  names.map fun name => ((row.get? name).getD .null).sqlText.toList

/-- The rows as comma-separated values, under the column names of the first row. -/
def csv : List Row → String
  | [] => ""
  | first :: rest =>
    let names := first.keys
    String.ofList ((names.map String.toList :: (first :: rest).map (rowFields names)).flatMap
      recordChars)

/-- The rows as a compact JSON array and a line end. -/
def json (rows : List Row) : String := (Json.array (rows.map Row.toJson)).compact ++ "\n"

end RecordAccess.Export
