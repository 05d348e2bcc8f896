import RecordAccess.TableSchema.Basic
import RecordAccess.Value.Json
/-!
# Schemas as JSON

The JSON form of columns and schemas, and the reading of it. An object may lack the members that a
column need not have and may have members beside the known ones; an array stands for an object if it
has exactly the known members, in order.
-/

namespace RecordAccess

namespace LogicalType

/-- The name of a logical type in documents. -/
def name : LogicalType → String
  | int => "Int"
  | float => "Float"
  | text => "String"
  | bool => "Bool"
  | dateTime => "DateTime"

/-- The logical type of a name in exact spelling. -/
def ofName? (name : String) : Option LogicalType :=
  [int, float, text, bool, dateTime].find? fun type => type.name == name

/-- The logical type that a JSON value names, as a string or as the key of a single null. -/
def ofJson? : Json → Option LogicalType
  | .string name => ofName? name
  | .object [(name, .null)] => ofName? name
  | _ => none

end LogicalType

namespace Json

/-- A string. -/
def asString? : Json → Option String
  | string s => some s
  | _ => none

/-- A natural number below 2⁶⁴. -/
def asNatural? : Json → Option Nat
  | int n => if 0 ≤ n then some n.toNat else none
  | _ => none

/-- A number of either kind, as floating point. -/
def asFloat? : Json → Option Binary64
  | int n => some (.ofInt n)
  | float x => some x
  | _ => none

/-- A value that may be null or missing; anything else has to read. -/
def optional? {α : Type} (read : Json → Option α) : Option Json → Option (Option α)
  | none => some none
  | some null => some none
  | some value => (read value).map some

/-- The members of an object by name, or the items of an array of exactly as many as names. -/
def fields? (names : List String) : Json → Option (String → Option Json)
  | object members => some fun name => (object members).member? name
  | array items =>
    if items.length = names.length then
      some fun name => (object (names.zip items)).member? name
    else none
  | _ => none

end Json

namespace Column

/-- The members of a column, in order. -/
def memberNames : List String :=
  ["name", "logical_type", "length", "min", "max", "default", "native_type"]

/-- The JSON object of a column. -/
def toJson (c : Column) : Json :=
  .object [
    ("name", .string c.name),
    ("logical_type", .string c.logicalType.name),
    ("length", .ofOption (fun (n : Nat) => .int n) c.length),
    ("min", .ofOption .ofBinary64 c.min),
    ("max", .ofOption .ofBinary64 c.max),
    ("default", .ofOption Value.toJson c.initial),
    ("native_type", .string c.nativeType)]

/-- The column that a JSON value describes. -/
def ofJson? (json : Json) : Option Column := do
  let field ← json.fields? memberNames
  return {
    name := ← (field "name").bind Json.asString?
    logicalType := ← (field "logical_type").bind LogicalType.ofJson?
    length := ← Json.optional? Json.asNatural? (field "length")
    min := ← Json.optional? Json.asFloat? (field "min")
    max := ← Json.optional? Json.asFloat? (field "max")
    initial := ← Json.optional? (fun v => some (.ofJson v)) (field "default")
    nativeType := ← (field "native_type").bind Json.asString? }

end Column

namespace TableSchema

/-- The JSON object of a schema. -/
def toJson (schema : TableSchema) : Json :=
  .object [("name", .string schema.name), ("columns", schema.columns.toJson Column.toJson)]

/-- The columns that the members of an object describe. -/
def columnsOfMembers? : List (String × Json) → Option (List (String × Column))
  | [] => some []
  | (key, value) :: rest => do
    let column ← Column.ofJson? value
    let columns ← columnsOfMembers? rest
    return (key, column) :: columns

/-- The columns that a JSON object describes, in the order of its members. -/
def columnsOfJson? : Json → Option (OrderedMap Column)
  | .object members => (columnsOfMembers? members).map .ofList
  | _ => none

/-- The schema that a JSON value describes. -/
def ofJson? (json : Json) : Option TableSchema := do
  let field ← json.fields? ["name", "columns"]
  return {
    name := ← (field "name").bind Json.asString?
    columns := ← (field "columns").bind columnsOfJson? }

/-- The laid out JSON text of a schema, `indent` tabs deep. -/
def toText (schema : TableSchema) (indent : Nat) : String := schema.toJson.toText indent

end TableSchema
end RecordAccess
