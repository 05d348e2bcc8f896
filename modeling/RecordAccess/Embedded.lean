import RecordAccess.Backend
import RecordAccess.Driver
import RecordAccess.Text.Bytes
import RecordAccess.Text.FilePath
/-!
# Embedded Databases

An embedded database described by its tables. It lists its tables, describes their columns, and
answers the query for all rows of a table; it finds tables by name in any case of ASCII letters.
-/

namespace RecordAccess.Embedded

/-- A cell as stored: a value, or a text whose bytes need not be well formed. -/
inductive StoredCell where
  | value (value : Value)
  | text (bytes : List UInt8)

/-- A declared column. -/
structure StoredColumn where
  name : String
  declaredType : String
  defaultText : Option String

/-- A table and its rows in order of insertion. -/
structure StoredTable where
  name : String
  columns : List StoredColumn
  rows : List (List StoredCell)

/-- The value that is read from a cell. A float that is not a number is stored as null. -/
def StoredCell.read : StoredCell → Value
  | value (.float .nan) => .null
  | value v => v
  | text bytes => .text (Utf8.decode bytes)

/-- The form of a name under which tables are found. -/
def foldName (name : String) : List Char := (Backend.printable name.toList).map Char.toLower

/-- The table of a name. -/
def find? (tables : List StoredTable) (name : String) : Option StoredTable :=
  tables.find? fun t => foldName t.name == foldName name

/-- Whether a name is kept for the database itself: six letters and at least one more character. -/
def isReserved (name : String) : Bool :=
  (foldName name).take 6 == "sqlite".toList && decide (6 < name.length)

/-- The names of the tables made by users, in order. -/
def tableNames (tables : List StoredTable) : List String :=
  ((tables.map StoredTable.name).filter fun name => !isReserved name).mergeSort
    fun a b => decide (a ≤ b)

/-- The row by which the database describes a column. -/
def descriptionRow (c : StoredColumn) : Row :=
  .ofList [
    ("name", .text c.name),
    ("type", .text c.declaredType),
    ("dflt_value", (c.defaultText.map Value.text).getD .null)]

/-- Where a description row holds what. -/
def descriptionKeys : NativeKeys := ⟨"name", "type", "", "", "", "dflt_value"⟩

/-- The columns of a table that can be described; an unknown table has none. -/
def columnsOf (tables : List StoredTable) (name : String) : List NativeColumn :=
  match find? tables name with
  | some table =>
    table.columns.filterMap fun c => NativeColumn.ofRow? descriptionKeys (descriptionRow c)
  | none => []

/-- The rows of a table. -/
def rowsOf (table : StoredTable) : List Row :=
  table.rows.map fun cells =>
    .ofList ((table.columns.map StoredColumn.name).zip (cells.map StoredCell.read))

/-- The name of the table that a query for all rows of a table asks for. -/
def selectedTable? (sql : String) : Option String :=
  let quoted := (afterStart? ("SELECT * FROM ".toList ++ [Backend.graveAccent]) sql.toList).bind
    (beforeEnding? [Backend.graveAccent])
  quoted.map fun name => String.ofList (undoubled Backend.graveAccent name)

/-- The answer to a statement. -/
def answer (tables : List StoredTable) (sql : String) : Except String (List Row) :=
  match selectedTable? sql with
  | none => .error "unknown statement"
  | some name =>
    match find? tables name with
    | some table => .ok (rowsOf table)
    | none => .error ("no such table: " ++ name)

/-- The name that a database goes by: the last component of its path. -/
def nameOf (path : String) : String :=
  match FilePath.lastName? path.toList with
  | some name => String.ofList name
  | none => "sqlite"

/-- The version of the engine. -/
def version : String := "SQLite 3.45.0"

/-- The driver of a database with some tables. -/
def driver (path : String) (tables : List StoredTable) : Driver where
  backend := .sqlite
  databaseName := nameOf path
  serverVersion := .ok version
  queryRows _ sql := answer tables sql
  listTables _ := .ok (tableNames tables)
  nativeColumns _ name := .ok (columnsOf tables name)

end RecordAccess.Embedded
