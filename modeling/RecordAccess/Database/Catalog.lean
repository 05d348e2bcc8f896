import RecordAccess.Database.Basic
import RecordAccess.TableSchema.Json
/-!
# Schema Catalog

The schemas of the tables of a database. A schema is read from the cache or else built from the
columns that the database reports, and from then on stays the same for the database.
-/

namespace RecordAccess.Database

/-- The key of a table's schema in a cache. -/
def schemaKey (table : String) : String := "schema:" ++ table

/-- The schema of a table as the database reports it. -/
def buildSchema (table : String) : Access Database TableSchema := do
  let backend ← backend
  match ← callReader (·.columns table) with
  | .ok native => return .ofNative backend table native
  | .error cause => throw (.schema table cause)

/-- The schema of a table that is built anew, and is then put into the cache. -/
def fetchSchema (table : String) : Access Database TableSchema := do
  let schema ← buildSchema table
  modify fun db => { db with cache := db.cache.set (schemaKey table) schema.toJson }
  return schema

/-- The schema of a table, by its name in any letter case. -/
def columnsFor (name : String) : Access Database TableSchema := do
  let table := lowercase name
  let db ← get
  match db.schemas.get? table with
  | some schema => return schema
  | none =>
    let schema ← match (db.cache.get? (schemaKey table)).bind TableSchema.ofJson? with
      | some schema => pure schema
      | none => fetchSchema table
    modify fun db => { db with schemas := db.schemas.insert table schema }
    return schema

/-- Whether a table has a mapped column of a name. -/
def hasColumn (table name : String) : Access Database Bool := do
  return (← columnsFor table).hasColumn name

end RecordAccess.Database
