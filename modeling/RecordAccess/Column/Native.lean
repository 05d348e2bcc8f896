import RecordAccess.Value
/-!
# Native Columns

Columns as a database describes them, before their types are mapped to logical types.
-/

namespace RecordAccess

/-- A column as the database reports it. -/
structure NativeColumn where
  name : String
  /-- The declared type, or the name of the data type. -/
  dataType : String
  /-- The length of text in characters; a negative one stands for no limit. -/
  maxLength : Option Int64
  precision : Option Int64
  scale : Option Int64
  /-- The default expression, with its quotes and parentheses. -/
  defaultText : Option String
  deriving DecidableEq, Inhabited

/-- The columns of an introspection query in which the parts of a description stand. -/
structure NativeKeys where
  name : String
  dataType : String
  maxLength : String
  precision : String
  scale : String
  defaultText : String
  deriving DecidableEq

/--
The column that a row of an introspection query describes. A row whose name or type is missing or
not text, or whose name is empty, describes none.
-/
def NativeColumn.ofRow? (keys : NativeKeys) (row : Row) : Option NativeColumn := do
  let name ← (row.get? keys.name).bind Value.asText?
  let dataType ← (row.get? keys.dataType).bind Value.asText?
  if name.isEmpty then none
  else
    return {
      name, dataType
      maxLength := (row.get? keys.maxLength).bind Value.asInt?
      precision := (row.get? keys.precision).bind Value.asInt?
      scale := (row.get? keys.scale).bind Value.asInt?
      defaultText := ((row.get? keys.defaultText).filter fun v => !v.isNull).map Value.sqlText }

end RecordAccess
