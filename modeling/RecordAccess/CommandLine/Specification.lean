import RecordAccess.CommandLine.Arguments
import RecordAccess.Record
/-!
# Filters and Sorts as Arguments

How a filter, its value and a sort are written as arguments, and the record set that a query asks
for.
-/

namespace RecordAccess.CommandLine

/-- What is wrong with the arguments of a query. -/
inductive QueryFault where
  /-- a filter that is not a key and a value -/
  | filter (text : String)
  | direction (text : String)
  | emptySortKey
  deriving DecidableEq

/-- The wording of a fault. -/
def QueryFault.message : QueryFault → String
  | filter text => "filter must be KEY=VALUE: " ++ text
  | direction text => "unknown sort direction: " ++ text
  | emptySortKey => "empty sort key"

/-- Whether a character may be part of a comparator. -/
def isComparatorChar (c : Char) : Bool := c = '=' || c = '!' || c = '<' || c = '>'

/-- The key and the value of a filter, which are parted by the first equals sign after the
comparator; the path in the key may not be empty. -/
def splitFilter? (text : String) : Option (String × String) :=
  let (comparator, rest) := text.toList.span isComparatorChar
  match cutAtFirst? '=' rest with
  | some (path, value) =>
    if path.isEmpty then none
    else some (String.ofList (comparator ++ path), String.ofList value)
  | none => none

/-- The value that a text means: integers stay integers. -/
def filterValue (text : String) : Value :=
  match readInt64? text.toList with
  | some n => .int n
  | none => .text text

/-- The key and the direction of a sort; without a direction it is ascending. -/
def splitSort (text : String) : Except QueryFault (String × Direction) := do
  let (key, direction) ← match cutAtLast? ':' text.toList with
    | some (key, direction) =>
      let direction := lowercase (String.ofList direction)
      if direction = "asc" then .ok (String.ofList key, .asc)
      else if direction = "desc" then .ok (String.ofList key, .desc)
      else .error (QueryFault.direction direction)
    | none => .ok (text, Direction.asc)
  if key.isEmpty then .error .emptySortKey else return (key, direction)

/-- A set with the filters of some arguments. -/
def withFilters (set : RecordSet) : List String → Except QueryFault RecordSet
  | [] => .ok set
  | text :: rest =>
    match splitFilter? text with
    | some (key, value) => withFilters (set.addFilter key (filterValue value)) rest
    | none => .error (.filter text)

/-- A set with the sorts of some arguments. -/
def withSorts (set : RecordSet) : List String → Except QueryFault RecordSet
  | [] => .ok set
  | text :: rest => do
    let (key, direction) ← splitSort text
    withSorts (set.sortBy key direction) rest

/-- The set that a query asks for. Filters are read before sorts. -/
def Query.toSet (query : Query) : Except QueryFault RecordSet := do
  let set : RecordSet := (RecordSetOf.ofTable query.table).withPageSize query.pageSize
  let set ← withFilters set query.filters
  let set := query.nulls.foldl (fun set key => set.addFilter key .null) set
  withSorts set query.sorts

end RecordAccess.CommandLine
