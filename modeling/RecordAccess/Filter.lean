import RecordAccess.Text.Lowercase
import RecordAccess.Text.Parts
import RecordAccess.Value
/-!
# Filters and Sorts

What a caller says about the rows wanted. The key of a filter is a comparator and a path, the key of
a sort a path alone. A path is a column, or names of tables to join and a column, parted by dots. A
null value compares with NULL; a column without a key is not filtered.
-/

namespace RecordAccess

/-- How a column is compared with a value. -/
inductive Comparator where
  | eq
  | ne
  | lt
  | le
  | gt
  | ge
  deriving DecidableEq, Inhabited

namespace Comparator

/-- The spellings at the start of a key; a longer one stands before those it begins with. -/
def spellings : List (String × Comparator) :=
  [("==", eq), ("!=", ne), ("<=", le), (">=", ge), ("=", eq), ("!", ne), ("<", lt), (">", gt)]

/-- The comparator that starts a key, among some spellings, and the rest of the key. -/
def splitBy : List (String × Comparator) → List Char → Comparator × List Char
  | [], key => (eq, key)
  | (spelling, comparator) :: more, key =>
    match afterStart? spelling.toList key with
    | some rest => (comparator, rest)
    | none => splitBy more key

/-- The comparator of a filter key and the path after it. A key without one means equality. -/
def split (key : String) : Comparator × String :=
  let (comparator, rest) := splitBy spellings key.toList
  (comparator, String.ofList rest)

/-- The operator in SQL. -/
def sql : Comparator → String
  | eq => "="
  | ne => "!="
  | lt => "<"
  | le => "<="
  | gt => ">"
  | ge => ">="

/-- Whether a comparison with NULL asks for the rows that are not null. -/
def asksPresent : Comparator → Bool
  | ne => true
  | gt => true
  | ge => true
  | _ => false

/-- The test in SQL that stands for a comparison with NULL. -/
def nullTest (comparator : Comparator) : String :=
  if comparator.asksPresent then "IS NOT NULL" else "IS NULL"

end Comparator

/-- A column, and the tables to join on the way to it. -/
structure FieldPath where
  /-- The joined tables from the base table outwards, in lowercase. -/
  chain : List String
  column : String
  deriving DecidableEq, Inhabited

namespace FieldPath

/-- The path that a text denotes: the column stands after the last dot, and empty names before it
are skipped. -/
def ofText (path : String) : FieldPath :=
  match cutAtLast? '.' path.toList with
  | some (tables, column) =>
    { chain := ((splitAt '.' tables).filter fun t => !t.isEmpty).map fun t =>
        lowercase (String.ofList t)
      column := String.ofList column }
  | none => { chain := [], column := path }

/-- Whether the path joins any table. -/
def isJoined (path : FieldPath) : Bool := !path.chain.isEmpty

/-- The name under which the last table of a chain is joined. -/
def chainName (chain : List String) : String := joinTexts "_" chain

/-- The name of the path's last table, if it joins any. -/
def joinName? (path : FieldPath) : Option String :=
  if path.isJoined then some (chainName path.chain) else none

end FieldPath

/-- The filters of a query, by key. -/
abbrev Filters := OrderedMap Value

/-- The order of a sort. -/
inductive Direction where
  | asc
  | desc
  deriving DecidableEq, Inhabited

namespace Direction

/-- The direction in SQL. -/
def sql : Direction → String
  | asc => "ASC"
  | desc => "DESC"

end Direction

/-- The sorts of a query, by key. -/
abbrev Sorts := OrderedMap Direction

/-- The sorts of a plain list of keys, all ascending. -/
def Sorts.ascending (keys : List String) : Sorts :=
  OrderedMap.ofList (keys.map fun key => (key, .asc))

end RecordAccess
