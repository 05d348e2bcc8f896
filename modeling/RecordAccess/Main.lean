import RecordAccess.CommandLine.Run
/-!
# Program

The command line as a program: it gathers the environment and the configuration file, runs the
command, and prints what the command leaves behind. No database engine is linked into it, so every
attempt to connect is refused.
-/

namespace RecordAccess.CommandLine

/-- The environment variables that a run depends on. -/
def variableNames : List String :=
  ["XDG_CONFIG_HOME", "HOME", "DB_TYPE", "DB_PATH", "DB_HOST", "DB_PORT", "DB_NAME", "DB_USER_R",
    "DB_PASSWORD_R", "DB_USER_W", "DB_PASSWORD_W", "DB_ENCRYPT", "DB_TRUST_CERT"]

/-- The environment variables of some names that are set. -/
def readVariables : List String → IO (List (String × String))
  | [] => return []
  | name :: rest => do
    let value ← IO.getEnv name
    let others ← readVariables rest
    return (value.map fun text => (name, text)).toList ++ others

/-- What is found under the path of a file. -/
def findFile (path : String) : IO Found := do
  match ← (IO.FS.readFile path).toBaseIO with
  | .ok text => return .text text
  | .error (.noFileOrDirectory ..) => return .nothing
  | .error _ => return .unreadable

/-- The path of the file that the configuration is looked for in. -/
def configPath? (environment : String → Option String) (arguments : Arguments) : Option String :=
  match arguments.config with
  | some path => some path
  | none => (Config.filePath (environment "XDG_CONFIG_HOME") (environment "HOME")).toOption

/-- Surroundings in which no database can be connected to. -/
def withoutEngine (environment : String → Option String) : Surroundings where
  environment := environment
  openFile _ := .error "no engine for SQLite"
  connectServer _ := .error "no client for SQL Server"

/-- Run a command and print its output. The exit code is one after a failure. -/
def execute (arguments : Arguments) : IO UInt32 := do
  let settings ← readVariables variableNames
  let environment (name : String) : Option String := Entries.get? name settings
  let path := configPath? environment arguments
  let found ← match path with
    | some path => findFile path
    | none => pure .nothing
  let files (wanted : String) : Found := if some wanted = path then found else .nothing
  let report := run files (withoutEngine environment) arguments
  IO.print report.output
  match report.failure with
  | none => return 0
  | some failure =>
    IO.eprintln ("error: " ++ failure.message)
    return 1

end RecordAccess.CommandLine

/-- The program. The exit code is two for arguments that do not read. -/
def main (args : List String) : IO UInt32 := do
  match RecordAccess.CommandLine.Arguments.ofList args with
  | .ok arguments => RecordAccess.CommandLine.execute arguments
  | .error refusal =>
    IO.eprintln ("error: " ++ refusal.name)
    return 2
