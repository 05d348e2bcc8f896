import RecordAccess.Backend
import RecordAccess.Text.FilePath
/-!
# Configurations

Which database to connect to, as a user writes it, and the checked target that it denotes. A target
in SQLite needs a file; one in SQL Server needs a host, a database and the names and passwords of a
login for reading and of one for writing.
-/

namespace RecordAccess

/-- What is wrong with a configuration. -/
inductive ConfigFault where
  | missingType
  /-- a type that names no backend, in the form compared -/
  | unknownType (text : String)
  | missingFile
  /-- a field that has to be filled in -/
  | missingField (name : String)
  /-- no directory for configuration files -/
  | noDirectory
  /-- a file that cannot be read -/
  | unreadable (path : String)
  /-- a file that holds no configuration -/
  | malformed (path : String)
  deriving DecidableEq

namespace ConfigFault

/-- The wording of a fault. -/
def message : ConfigFault → String
  | missingType => "missing database type"
  | unknownType text => "unknown database type " ++ graveQuoted text
  | missingFile => "missing sqlite path"
  | missingField name => "missing " ++ graveQuoted name
  | noDirectory => "could not find config directory"
  | unreadable path => "failed to read " ++ path
  | malformed path => "failed to parse " ++ path
where
  /-- A text between grave accents. -/
  graveQuoted (text : String) : String :=
    String.ofList (Backend.graveAccent :: (text.toList ++ [Backend.graveAccent]))

end ConfigFault

/-- A configuration as written. -/
structure Config where
  type : Option String
  /-- the file of a SQLite database -/
  path : Option String
  host : Option String
  port : Option Nat
  /-- the name of a database on a server -/
  name : Option String
  readUser : Option String
  readPassword : Option String
  writeUser : Option String
  writePassword : Option String
  encrypt : Bool
  trustCertificate : Bool
  deriving DecidableEq

/-- A login to a database on a server. -/
structure Login where
  host : String
  port : Nat
  user : String
  password : String
  database : String
  encrypt : Bool
  trustCertificate : Bool
  deriving DecidableEq

/-- What a checked configuration connects to. -/
inductive Target where
  | sqlite (path : String)
  | sqlServer (read write : Login)
  deriving DecidableEq

/-- The backend of a target. -/
def Target.backend : Target → Backend
  | sqlite _ => .sqlite
  | sqlServer _ _ => .sqlServer

namespace Config

/-- The configuration in which nothing is written. -/
def empty : Config where
  type := none
  path := none
  host := none
  port := none
  name := none
  readUser := none
  readPassword := none
  writeUser := none
  writePassword := none
  encrypt := false
  trustCertificate := true

/-- The configuration for a SQLite file. -/
def sqlite (path : String) : Config := { empty with type := some "sqlite", path := some path }

/-- The port of a server where none is written. -/
def standardPort : Nat := 1433

/-- The text of a field that has to be filled in with more than blanks. -/
def required (field : Option String) (name : String) : Except ConfigFault String :=
  match field with
  | some text => if (trimChars text.toList).isEmpty then .error (.missingField name) else .ok text
  | none => .error (.missingField name)

/-- The login with some user and password. -/
def login (c : Config) (host database user password : String) : Login :=
  { host, user, password, database
    port := c.port.getD standardPort
    encrypt := c.encrypt
    trustCertificate := c.trustCertificate }

/-- The target on a server; fields are asked for in a fixed order. -/
def serverTarget (c : Config) : Except ConfigFault Target := do
  let host ← required c.host "host"
  let database ← required c.name "name"
  let readUser ← required c.readUser "username_r"
  let readPassword ← required c.readPassword "password_r"
  let writeUser ← required c.writeUser "username_w"
  let writePassword ← required c.writePassword "password_w"
  return .sqlServer (c.login host database readUser readPassword)
    (c.login host database writeUser writePassword)

/-- The target in a file, whose path may not be empty as written. -/
def fileTarget (c : Config) : Except ConfigFault Target :=
  match c.path with
  | none => .error .missingFile
  | some path =>
    if path.isEmpty then .error .missingFile else .ok (.sqlite (FilePath.withoutHere path))

/-- The target of a configuration, or what is wrong with it. -/
def target (c : Config) : Except ConfigFault Target :=
  match c.type with
  | none => .error .missingType
  | some text =>
    match Backend.ofText text with
    | .error unknown => .error (.unknownType unknown)
    | .ok .sqlite => c.fileTarget
    | .ok .sqlServer => c.serverTarget

end Config
end RecordAccess
