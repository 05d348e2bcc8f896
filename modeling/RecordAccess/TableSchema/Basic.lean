import RecordAccess.Column.Mapping
/-!
# Table Schemas

The mapped columns of one table, in database order.
-/

namespace RecordAccess

/-- The columns of a table that have a logical type, by name. -/
structure TableSchema where
  name : String
  columns : OrderedMap Column
  deriving DecidableEq, Inhabited

namespace TableSchema

/-- The column of a name. -/
def column? (schema : TableSchema) (name : String) : Option Column := schema.columns.get? name

/-- Whether there is a column of a name. -/
def hasColumn (schema : TableSchema) (name : String) : Bool := schema.columns.contains name

/-- The schema of a table with some native columns; those that do not map are left out. -/
def ofNative (backend : Backend) (table : String) (native : List NativeColumn) : TableSchema where
  name := table
  columns := .ofList ((native.filterMap (Column.ofNative? backend)).map fun c => (c.name, c))

end TableSchema
end RecordAccess
