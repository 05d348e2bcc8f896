import RecordAccess.Config.Basic
/-!
# Errors

What can go wrong in the access to a database, with the wording of each error. After an error in the
configuration or connection no further access can succeed.
-/

namespace RecordAccess

/-- An error of an operation on a database. -/
inductive Error where
  | config (fault : ConfigFault)
  | connection (backend : Backend) (cause : String)
  /-- the columns of a table could not be read -/
  | schema (table cause : String)
  /-- a statement failed -/
  | query (sql cause : String)
  /-- an earlier error has left the database without a connection -/
  | unavailable (reason : String)
  deriving DecidableEq

namespace Error

/-- The wording of an error, without what a driver said about its cause. -/
def message : Error → String
  | config fault => "bad db config: " ++ fault.message
  | connection backend _ => "failed to connect to " ++ backend.name
  | schema table _ => "failed to read schema of table " ++ ConfigFault.message.graveQuoted table
  | query sql _ => "query failed: " ++ sql
  | unavailable reason => "no database connection available (" ++ reason ++ ")"

/-- What the driver said about the cause of an error in a schema or query. -/
def cause? : Error → Option String
  | schema _ cause => some cause
  | query _ cause => some cause
  | _ => none

/-- Whether every further access to the database fails too. -/
def isFatal : Error → Bool
  | config _ => true
  | connection _ _ => true
  | unavailable _ => true
  | schema _ _ => false
  | query _ _ => false

end Error
end RecordAccess
