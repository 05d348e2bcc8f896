import RecordAccess.CommandLine.Specification
import RecordAccess.Config.FileTree
import RecordAccess.Export
import RecordAccess.RecordSet.Paging
/-!
# Running Commands

What a command prints, how it fails, and which statements it sends. The configuration comes from the
file named by the arguments, else from the user's configuration file, else from the environment.
-/

namespace RecordAccess.CommandLine

/-- Why a command fails. -/
inductive Failure where
  | access (error : Error)
  /-- a call of a driver -/
  | driver (text : String)
  | query (fault : QueryFault)
  | noTable (name : String)
  | noRecord (table : String) (id : Int64)
  deriving DecidableEq

/-- The wording of a failure. -/
def Failure.message : Failure → String
  | access error => error.message
  | driver text => text
  | query fault => fault.message
  | noTable name => "no such table: " ++ name
  | noRecord table id => table ++ " " ++ integerText id.toInt ++ " not found"

/-- A run of the program: the database and what was printed. -/
structure Run where
  database : Database
  output : String

/-- A part of a run. -/
abbrev RunM (α : Type) : Type := EStateM Failure Run α

namespace RunM

/-- An operation on the database. -/
def access {α : Type} (operation : Access Database α) : RunM α := fun run =>
  match operation run.database with
  | .ok a db => .ok a { run with database := db }
  | .error e db => .error (.access e) { run with database := db }

/-- Print a text. -/
def print (text : String) : RunM Unit := modify fun run => { run with output := run.output ++ text }

/-- Print a line. -/
def printLine (line : String) : RunM Unit := print (line ++ "\n")

/-- The result of a call of a driver. -/
def answer {α : Type} : Except String α → RunM α
  | .ok a => return a
  | .error text => throw (.driver text)

end RunM

/-- Show the backend, the name of the database and the version of the server. -/
def showInfo : RunM Unit := do
  let handles ← RunM.access Database.getHandles
  RunM.printLine ("backend:  " ++ handles.backend.name)
  RunM.printLine ("database: " ++ handles.read.driver.databaseName)
  RunM.printLine ("version:  " ++ (← RunM.answer handles.read.driver.serverVersion))

/-- Show the tables in order, a line each. -/
def showTables : RunM Unit := do
  let names ← RunM.answer (← RunM.access (Database.callReader Handle.tables))
  for name in names.mergeSort fun a b => decide (a ≤ b) do
    RunM.printLine name

/-- Show the mapped columns of a table. -/
def showSchema (table : String) : RunM Unit := do
  if !(← RunM.access (Database.tableExists table)) then throw (.noTable table)
  let schema ← RunM.access (Database.columnsFor table)
  RunM.printLine (schema.toText 0)

/-- Show the record of an identity. -/
def showRecord (table : String) (id : Int64) : RunM Unit := do
  let text ← RunM.access (Focus.on (Record.ofId table id) do
    if ← Record.isFound then return some (← Record.toText 0) else return none)
  match text with
  | some text => RunM.printLine text
  | none => throw (.noRecord table id)

/-- The text of the rows of a set in a format. -/
def rowsText (set : RecordSet) (rows : List Row) : Format → String
  | .text => (set.toJson rows).toText 0 ++ "\n"
  | .json => Export.json rows
  | .csv => Export.csv rows

/-- Show the records that a query asks for. -/
def showQuery (wanted : Query) : RunM Unit := do
  match wanted.toSet with
  | .error fault => throw (Failure.query fault)
  | .ok set =>
    let rows ← RunM.access (Focus.on set (RecordSetOf.takeRows wanted.limit))
    RunM.print (rowsText set rows wanted.format)

/-- Run a command. -/
def Command.run : Command → RunM Unit
  | .info => showInfo
  | .tables => showTables
  | .schema table => showSchema table
  | .get table id => showRecord table id
  | .query wanted => showQuery wanted

/-- The configuration that the arguments and the surroundings lead to. -/
def findConfig (files : String → Found) (environment : String → Option String)
    (named : Option String) : Except ConfigFault Config :=
  match named with
  | some path => Config.ofFile path (files path).text?
  | none =>
    match Config.filePath (environment "XDG_CONFIG_HOME") (environment "HOME") with
    | .error fault => .error fault
    | .ok path =>
      match files path with
      | .nothing => .ok (.ofEnvironment environment)
      | found => Config.ofFile path found.text?

/-- What a run of the program leaves behind. -/
structure Report where
  output : String
  failure : Option Failure
  /-- The statements sent, in order. -/
  log : List String

/-- Run the program with some arguments, among files found by their paths. The database is connected
before the command begins. -/
def run (files : String → Found) (surroundings : Surroundings) (arguments : Arguments) :
    Report :=
  match findConfig files surroundings.environment arguments.config with
  | .error fault => ⟨"", some (.access (.config fault)), []⟩
  | .ok config =>
    let db := Database.ofConfig config surroundings .emptyMemory
    let program : RunM Unit := do
      let _ ← RunM.access Database.getHandles
      arguments.command.run
    match program ⟨db, ""⟩ with
    | .ok _ run => ⟨run.output, none, run.database.log.reverse⟩
    | .error failure run => ⟨run.output, some failure, run.database.log.reverse⟩

end RecordAccess.CommandLine
