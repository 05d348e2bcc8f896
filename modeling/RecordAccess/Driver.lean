import RecordAccess.Column.Native
import RecordAccess.Config.Basic
/-!
# Drivers

A driver answers the calls of one connection. Its answers may depend in any way on the calls before,
so that tables may change and calls may fail between two equal calls. A handle is a driver together
with the calls made on it so far.
-/

namespace RecordAccess

/-- A call of a driver. -/
inductive Call where
  | query (sql : String)
  | tables
  | columns (table : String)
  deriving DecidableEq

/-- The answers of a connection. The history given to each is that of the calls before, latest
first. A failed call has a text that says why. -/
structure Driver where
  backend : Backend
  databaseName : String
  serverVersion : Except String String
  queryRows : (history : List Call) → (sql : String) → Except String (List Row)
  listTables : (history : List Call) → Except String (List String)
  nativeColumns : (history : List Call) → (table : String) → Except String (List NativeColumn)

/-- A driver and the calls made on it so far, latest first. -/
structure Handle where
  driver : Driver
  history : List Call

namespace Handle

/-- A handle on which no call has been made. -/
def ofDriver (driver : Driver) : Handle := ⟨driver, []⟩

/-- The handle after a further call. -/
def called (handle : Handle) (call : Call) : Handle :=
  { handle with history := call :: handle.history }

/-- Run a statement. -/
def query (handle : Handle) (sql : String) : Except String (List Row) × Handle :=
  (handle.driver.queryRows handle.history sql, handle.called (.query sql))

/-- List the tables. -/
def tables (handle : Handle) : Except String (List String) × Handle :=
  (handle.driver.listTables handle.history, handle.called .tables)

/-- Describe the columns of a table. -/
def columns (handle : Handle) (table : String) : Except String (List NativeColumn) × Handle :=
  (handle.driver.nativeColumns handle.history table, handle.called (.columns table))

end Handle

/-- The handles of a connected database. -/
structure Handles where
  backend : Backend
  read : Handle
  /-- The handle for writing, where it is another one than that for reading. -/
  write : Option Handle

namespace Handles

/-- Handles on drivers that are already connected. -/
def ofDrivers (read : Driver) (write : Option Driver) : Handles :=
  ⟨read.backend, .ofDriver read, write.map .ofDriver⟩

/-- The handle for writing. -/
def writer (handles : Handles) : Handle := handles.write.getD handles.read

end Handles

/-- What a database finds around it: the environment variables, and the databases that can be
connected to, each with the text of the failure if it cannot. -/
structure Surroundings where
  environment : String → Option String
  openFile : (path : String) → Except String Driver
  connectServer : Login → Except String Driver

end RecordAccess
