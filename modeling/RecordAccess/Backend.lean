import RecordAccess.Text.Blank
import RecordAccess.Text.Lowercase
import RecordAccess.Text.Parts
import RecordAccess.Number.Integer
/-!
# Backends

The two kinds of SQL database, and where their SQL differs: how names and literals are quoted, how
one row or a window of rows is asked for, and how the tables are listed. NUL characters, which
neither database takes, are left out of every quoted text.
-/

namespace RecordAccess

/-- A kind of database. -/
inductive Backend where
  | sqlServer
  | sqlite
  deriving DecidableEq, Inhabited

namespace Backend

/-- The name shown to people. -/
def name : Backend → String
  | sqlServer => "SQL Server"
  | sqlite => "SQLite"

/-- The name used in documents. -/
def key : Backend → String
  | sqlServer => "sqlserver"
  | sqlite => "sqlite"

/--
The backend that a text names in any letter case and with blanks around it. A text that names none
is given back in the form compared.
-/
def ofText (text : String) : Except String Backend :=
  let known := lowercase (trim text)
  if known = "sqlserver" ∨ known = "mssql" then .ok sqlServer
  else if known = "sqlite" then .ok sqlite
  else .error known

/-- The characters of a text that can be part of SQL. -/
def printable (text : List Char) : List Char := text.filter fun c => c.toNat != 0

/-- The grave accent, which quotes names. -/
def graveAccent : Char := Char.ofNat 0x60

/-- A text between quotes, with the closing quote doubled within. -/
def enclose (opening closing : Char) (text : String) : String :=
  String.ofList (opening :: (doubled closing (printable text.toList) ++ [closing]))

/-- The content of a literal between its quotes. -/
def escape (text : String) : String :=
  String.ofList (doubled '\'' (printable text.toList))

/-- A name between the quotes of the backend. -/
def quoteName : Backend → String → String
  | sqlite, name => enclose graveAccent graveAccent name
  | sqlServer, name => enclose '[' ']' name

/-- A text as a literal. On SQL Server the literal is one of national characters. -/
def quoteLiteral : Backend → String → String
  | sqlite, text => enclose '\'' '\'' text
  | sqlServer, text => "N" ++ enclose '\'' '\'' text

/-- A condition that no row meets. -/
def falseCondition : Backend → String
  | sqlite => "FALSE"
  | sqlServer => "1 = 0"

/-- The query for one row of a table that meets a condition. -/
def selectOne (backend : Backend) (table condition : String) : String :=
  match backend with
  | sqlite => "SELECT * FROM " ++ backend.quoteName table ++ " WHERE " ++ condition ++ " LIMIT 1"
  | sqlServer => "SELECT TOP 1 * FROM " ++ backend.quoteName table ++ " WHERE " ++ condition

/-- The clause after the order that takes `limit` rows and leaves out `offset` rows before them. -/
def window (backend : Backend) (limit offset : Nat) : String :=
  match backend with
  | sqlite => "LIMIT " ++ naturalText limit ++ " OFFSET " ++ naturalText offset
  | sqlServer =>
    "OFFSET " ++ naturalText offset ++ " ROWS FETCH NEXT " ++ naturalText limit ++ " ROWS ONLY"

/-- The query that lists the tables made by users. -/
def tableListQuery : Backend → String
  | sqlite =>
    "SELECT name FROM sqlite_master WHERE type='table' AND name NOT LIKE 'sqlite_%' ORDER BY name"
  | sqlServer => "SELECT t.name FROM sys.tables t ORDER BY t.name"

end Backend
end RecordAccess
