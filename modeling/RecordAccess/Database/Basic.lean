import RecordAccess.Cache
import RecordAccess.Config.Reading
import RecordAccess.Database.Access
import RecordAccess.Driver
import RecordAccess.TableSchema.Basic
/-!
# Databases

The context that records and record sets share: the connection, the table list and the schemas. A
connection is attempted once, on first use; an error then is remembered, and later operations that
need a connection fail with it. Statements go to the handle for reading only.
-/

namespace RecordAccess

/-- Where a database takes its configuration from. -/
inductive Source where
  | environment
  | explicit (config : Config)
  deriving DecidableEq

/-- A database context. -/
structure Database where
  source : Source
  surroundings : Surroundings
  cache : Cache
  /-- The outcome of the attempt to connect, once it was made: handles or the text of the error. -/
  handles : Option (Except String Handles)
  /-- The names of the tables in lowercase, once known. -/
  tables : Option (List String)
  /-- The schemas known so far, by the lowercase names of their tables. -/
  schemas : OrderedMap TableSchema
  /-- How often a connection was attempted. -/
  attempts : Nat
  /-- The statements sent or about to be sent, latest first. -/
  log : List String

namespace Database

/-- A database not yet connected. -/
def ofSource (source : Source) (surroundings : Surroundings) (cache : Cache) : Database where
  source := source
  surroundings := surroundings
  cache := cache
  handles := none
  tables := none
  schemas := .empty
  attempts := 0
  log := []

/-- A database of a configuration, connected on first use. -/
def ofConfig (config : Config) (surroundings : Surroundings) (cache : Cache) : Database :=
  ofSource (.explicit config) surroundings cache

/-- A database that is configured from the environment on first use. -/
def ofEnvironment (surroundings : Surroundings) (cache : Cache) : Database :=
  ofSource .environment surroundings cache

/-- A database over drivers that are already connected. -/
def ofDrivers (read : Driver) (write : Option Driver) (surroundings : Surroundings)
    (cache : Cache) : Database :=
  { ofSource .environment surroundings cache with handles := some (.ok (.ofDrivers read write)) }

/-- The database after another one over the same handles and cache was used. -/
def alongside (used db : Database) : Database :=
  { db with
    cache := used.cache
    handles :=
      match used.handles, db.handles with
      | some (.ok handles), some (.ok _) => some (.ok handles)
      | _, own => own }

/-- The handles that a target is connected with. -/
def connectTo (surroundings : Surroundings) (target : Target) : Except Error Handles :=
  let refused (cause : String) : Error := .connection target.backend cause
  match target with
  | .sqlite path =>
    match surroundings.openFile path with
    | .ok driver => .ok ⟨.sqlite, .ofDriver driver, none⟩
    | .error cause => .error (refused cause)
  | .sqlServer readLogin writeLogin =>
    match surroundings.connectServer readLogin with
    | .error cause => .error (refused cause)
    | .ok read =>
      match surroundings.connectServer writeLogin with
      | .error cause => .error (refused cause)
      | .ok write => .ok ⟨.sqlServer, .ofDriver read, some (.ofDriver write)⟩

/-- The configuration of a database. -/
def config (db : Database) : Config :=
  match db.source with
  | .explicit config => config
  | .environment => .ofEnvironment db.surroundings.environment

/-- The handles that the configuration leads to. -/
def connect (db : Database) : Except Error Handles :=
  match db.config.target with
  | .error fault => .error (.config fault)
  | .ok target => connectTo db.surroundings target

/-- The handles, after an attempt to connect if there was none yet. -/
def getHandles : Access Database Handles := fun db =>
  match db.handles with
  | some (.ok handles) => .ok handles db
  | some (.error reason) => .error (.unavailable reason) db
  | none =>
    match db.connect with
    | .ok handles =>
      .ok handles { db with handles := some (.ok handles), attempts := db.attempts + 1 }
    | .error e =>
      .error e { db with handles := some (.error e.message), attempts := db.attempts + 1 }

/-- The backend. -/
def backend : Access Database Backend := do
  return (← getHandles).backend

/-- Make a call on the handle for reading, if there is a connection. -/
def callReader {α : Type} (call : Handle → Except String α × Handle) :
    Access Database (Except String α) := do
  let handles ← getHandles
  let (answer, read) := call handles.read
  modify fun db => { db with handles := some (.ok { handles with read }) }
  return answer

/-- Note a statement about to be sent. -/
def note (sql : String) : Access Database Unit :=
  modify fun db => { db with log := sql :: db.log }

/-- The content of a literal between its quotes. -/
def escape (text : String) : Access Database String := do
  let _ ← backend
  return Backend.escape text

/-- A name between the quotes of the backend. -/
def quoteName (name : String) : Access Database String := do
  return (← backend).quoteName name

/-- The rows that a statement gives. -/
def query (sql : String) : Access Database (List Row) := do
  let _ ← getHandles
  note sql
  match ← callReader (·.query sql) with
  | .ok rows => return rows
  | .error cause => throw (.query sql cause)

/-- The key of the table list in a cache. -/
def tablesKey : String := "tables"

/-- The names in a JSON array of strings. -/
def namesOfItems? : List Json → Option (List String)
  | [] => some []
  | .string name :: rest => (namesOfItems? rest).map fun names => name :: names
  | _ :: _ => none

/-- The table list that a cached value describes. -/
def tablesOfJson? : Json → Option (List String)
  | .array items => namesOfItems? items
  | _ => none

/-- The table list from the database, which is then put into the cache. -/
def fetchTables : Access Database (List String) := do
  let sql := (← backend).tableListQuery
  note sql
  match ← callReader Handle.tables with
  | .ok names =>
    let tables := names.map lowercase
    modify fun db => { db with cache := db.cache.set tablesKey (.array (tables.map .string)) }
    return tables
  | .error cause => throw (.query sql cause)

/-- The table list: the one already known, else the one in the cache, else that of the database. -/
def knownTables : Access Database (List String) := do
  let db ← get
  match db.tables with
  | some tables => return tables
  | none =>
    let tables ← match (db.cache.get? tablesKey).bind tablesOfJson? with
      | some tables => pure tables
      | none => fetchTables
    modify fun db => { db with tables := some tables }
    return tables

/-- Whether a table exists, by its name in any letter case. -/
def tableExists (name : String) : Access Database Bool := do
  return (← knownTables).contains (lowercase name)

/-- Forget the table list, so that it is fetched again when next needed. -/
def invalidateTables : Access Database Unit :=
  modify fun db => { db with tables := none, cache := db.cache.set tablesKey .null }

end Database
end RecordAccess
