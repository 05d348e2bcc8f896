import RecordAccess.Backend
import RecordAccess.Filter
/-!
# Compiled Queries

The statements that count the rows of a filtered table and fetch a window of them. Tables of a path
are joined by naming convention: a joined table `t` points with its column `p_id` to the `id` of the
table `p` before it. A joined table goes by the names of its chain so far, and each such name is
joined once in a statement.
-/

namespace RecordAccess

/-- A joined table. -/
structure Join where
  /-- The name it goes by in the statement. -/
  name : String
  table : String
  /-- The table before it in the chain. -/
  parentTable : String
  /-- The name that table goes by. -/
  parentName : String
  deriving DecidableEq

/-- A column of a table that goes by a name in the statement. -/
structure ColumnName where
  owner : String
  column : String
  deriving DecidableEq

/-- What a condition tests. -/
inductive Test where
  /-- whether the column is null, or is present -/
  | null (comparator : Comparator)
  /-- how the column compares with a text -/
  | compare (comparator : Comparator) (text : String)
  deriving DecidableEq

/-- A condition on a column. -/
structure Condition where
  column : ColumnName
  test : Test
  deriving DecidableEq

/-- A column that rows are ordered by. -/
structure OrderItem where
  column : ColumnName
  direction : Direction
  deriving DecidableEq

/-- Whether a window of rows may repeat a row that was joined more than once. -/
inductive Dedup where
  /-- rows come as the joins produce them -/
  | none
  /-- equal rows are merged -/
  | distinct
  deriving DecidableEq, Inhabited

/-- A compiled query over one base table. -/
structure Select where
  backend : Backend
  table : String
  joins : List Join
  conditions : List Condition
  order : List OrderItem
  deriving DecidableEq

namespace Join

/-- The joins of the tables that follow those in `before`. -/
def along (parentTable parentName : String) (before : List String) : List String → List Join
  | [] => []
  | table :: rest =>
    let name := FieldPath.chainName (before ++ [table])
    { name, table, parentTable, parentName } :: along table name (before ++ [table]) rest

/-- The joins that a chain of tables needs, from the base table outwards. -/
def ofChain (base : String) (chain : List String) : List Join := along base base [] chain

/-- Add a join unless its name is joined already. -/
def addTo (joins : List Join) (join : Join) : List Join :=
  if joins.any fun j => j.name == join.name then joins else joins ++ [join]

/-- The joins that some paths need, each name once. -/
def ofPaths (base : String) (paths : List FieldPath) : List Join :=
  (paths.flatMap fun path => ofChain base path.chain).foldl addTo []

/-- The clause of a join. -/
def sql (backend : Backend) (join : Join) : String :=
  "JOIN " ++ backend.quoteName join.table ++ " AS " ++ backend.quoteName join.name
    ++ " ON " ++ backend.quoteName join.name ++ "." ++ backend.quoteName (join.parentTable ++ "_id")
    ++ " = " ++ backend.quoteName join.parentName ++ "." ++ backend.quoteName "id"

end Join

namespace ColumnName

/-- The column that a path means in a query over a base table. -/
def ofPath (base : String) (path : FieldPath) : ColumnName :=
  ⟨path.joinName?.getD base, path.column⟩

/-- The column in SQL. -/
def sql (backend : Backend) (c : ColumnName) : String :=
  backend.quoteName c.owner ++ "." ++ backend.quoteName c.column

end ColumnName

namespace Condition

/-- The condition that a filter states. -/
def ofFilter (base : String) (key : String) (value : Value) : Condition :=
  let (comparator, path) := Comparator.split key
  { column := .ofPath base (.ofText path)
    test := if value.isNull then .null comparator else .compare comparator value.sqlText }

/-- The condition in SQL. -/
def sql (backend : Backend) (c : Condition) : String :=
  match c.test with
  | .null comparator => c.column.sql backend ++ " " ++ comparator.nullTest
  | .compare comparator text =>
    c.column.sql backend ++ " " ++ comparator.sql ++ " " ++ backend.quoteLiteral text

end Condition

namespace OrderItem

/-- The order that a sort states. -/
def ofSort (base : String) (key : String) (direction : Direction) : OrderItem :=
  ⟨.ofPath base (.ofText key), direction⟩

/-- The order in SQL. -/
def sql (backend : Backend) (item : OrderItem) : String :=
  item.column.sql backend ++ " " ++ item.direction.sql

end OrderItem

namespace Select

/-- The paths of filters and then of sorts, which decide the joins. -/
def paths (filters : Filters) (sorts : Sorts) : List FieldPath :=
  (filters.keys.map fun key => .ofText (Comparator.split key).2) ++ sorts.keys.map .ofText

/-- The query for the rows of a table that meet all filters, in the order of the sorts. -/
def compile (backend : Backend) (table : String) (filters : Filters) (sorts : Sorts) : Select :=
  let base := lowercase table
  { backend
    table := base
    joins := Join.ofPaths base (paths filters sorts)
    conditions := filters.entries.map fun (key, value) => .ofFilter base key value
    order := sorts.entries.map fun (key, direction) => .ofSort base key direction }

/-- Whether any table is joined, so that a row of the base table may occur more than once. -/
def isJoined (s : Select) : Bool := !s.joins.isEmpty

/-- The identity of the rows of the base table. -/
def idColumn (s : Select) : ColumnName := ⟨s.table, "id"⟩

/-- The tables and conditions, which every statement of the query shares. -/
def fromClause (s : Select) : String :=
  let tables := joinTexts "\n" (("FROM " ++ s.backend.quoteName s.table)
    :: s.joins.map fun join => join.sql s.backend)
  if s.conditions.isEmpty then tables
  else tables ++ "\nWHERE "
    ++ joinTexts "\n\tAND " (s.conditions.map fun condition => condition.sql s.backend)

/-- The statement that counts the rows; a row joined more than once counts once. -/
def countSql (s : Select) : String :=
  "SELECT COUNT(" ++ (if s.isJoined then "DISTINCT " else "") ++ s.idColumn.sql s.backend
    ++ ") AS " ++ s.backend.quoteName "count" ++ "\n" ++ s.fromClause

/-- The statement that fetches a window of rows. Rows that the sorts leave equal come by
identity. -/
def pageSql (s : Select) (limit offset : Nat) (dedup : Dedup) : String :=
  let order := s.order ++ [⟨s.idColumn, .asc⟩]
  "SELECT " ++ (match dedup with | .distinct => "DISTINCT " | .none => "")
    ++ s.backend.quoteName s.table ++ ".*\n" ++ s.fromClause
    ++ "\nORDER BY " ++ joinTexts ", " (order.map fun item => item.sql s.backend)
    ++ "\n" ++ s.backend.window limit offset

end Select

/-- The statement that fetches the row of an identity. An identity that is not positive has none. -/
def recordSql (backend : Backend) (table : String) (id : Int64) : String :=
  backend.selectOne table
    (if id.toInt ≤ 0 then backend.falseCondition
     else (ColumnName.mk table "id").sql backend ++ " = " ++ integerText id.toInt)

end RecordAccess
