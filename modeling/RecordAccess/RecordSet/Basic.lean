import RecordAccess.Database.Focus
import RecordAccess.Select
/-!
# Record Sets

A filtered and sorted view of one table, fetched page by page. The number of rows and the page last
fetched are kept until the filters, the sorts, the page size or the treatment of repeated rows
change. The type of the records on a page is a parameter here, since records hold record sets.
-/

namespace RecordAccess

/-- A place on a page: a row until it is first read, and from then on the record made of it. -/
inductive Slot (ρ : Type) where
  | raw (row : Row)
  | record (record : ρ)

/-- A fetched page. -/
structure Page (ρ : Type) where
  index : Nat
  slots : List (Slot ρ)

/-- A record set with records of type `ρ`. -/
structure RecordSetOf (ρ : Type) where
  table : String
  filters : Filters
  sorts : Sorts
  pageSize : Nat
  /-- A page has room for a row. -/
  pageSize_pos : 0 < pageSize
  dedup : Dedup
  /-- The number of rows, once counted. -/
  total : Option Nat
  page : Option (Page ρ)

namespace RecordSetOf

variable {ρ : Type}

/-- The number of rows on a page unless another is asked for. -/
def standardPageSize : Nat := 100

/-- The set of all rows of a table. -/
def ofTable (table : String) : RecordSetOf ρ where
  table := lowercase table
  filters := .empty
  sorts := .empty
  pageSize := standardPageSize
  pageSize_pos := by decide
  dedup := .none
  total := none
  page := none

/-- The set without what was fetched. -/
def invalidate (set : RecordSetOf ρ) : RecordSetOf ρ := { set with total := none, page := none }

/-- The set with a filter for a key. -/
def addFilter (set : RecordSetOf ρ) (key : String) (value : Value) : RecordSetOf ρ :=
  invalidate { set with filters := set.filters.insert key value }

/-- The value of a filter that is taken away, if there is one, and the set without it. -/
def removeFilter (set : RecordSetOf ρ) (key : String) : Option Value × RecordSetOf ρ :=
  match set.filters.get? key with
  | some value => (some value, invalidate { set with filters := set.filters.erase key })
  | none => (none, set)

/-- The set with other filters. -/
def withFilters (set : RecordSetOf ρ) (filters : Filters) : RecordSetOf ρ :=
  invalidate { set with filters }

/-- The set sorted by a key, after the keys it is sorted by already. -/
def sortBy (set : RecordSetOf ρ) (key : String) (direction : Direction) : RecordSetOf ρ :=
  invalidate { set with sorts := set.sorts.insert key direction }

/-- The set with pages of another size, of at least one row. -/
def withPageSize (set : RecordSetOf ρ) (size : Nat) : RecordSetOf ρ :=
  invalidate { set with pageSize := max size 1, pageSize_pos := by omega }

/-- The set with another treatment of repeated rows. -/
def withDedup (set : RecordSetOf ρ) (dedup : Dedup) : RecordSetOf ρ :=
  invalidate { set with dedup }

/-- The compiled query of a set. -/
def compiled : Access (Focus (RecordSetOf ρ)) Select := do
  let backend ← Focus.onDatabase Database.backend
  let set ← Focus.getSelf
  return .compile backend set.table set.filters set.sorts

/-- The number in the first cell of an answer; none or a negative one counts as zero. -/
def countOf (rows : List Row) : Nat :=
  match (rows.head?.bind fun row => row.values.head?).bind Value.asInt? with
  | some n => n.toInt.toNat
  | none => 0

/-- The number of rows in the set, asked for once. -/
def count : Access (Focus (RecordSetOf ρ)) Nat := do
  match (← Focus.getSelf).total with
  | some total => return total
  | none =>
    let sql := (← compiled).countSql
    let rows ← Focus.onDatabase (Database.query sql)
    let total := countOf rows
    Focus.modifySelf fun set => { set with total := some total, page := none }
    return total

/-- Fetch the page of an index in place of the one kept. -/
def loadPage (index : Nat) : Access (Focus (RecordSetOf ρ)) Unit := do
  let select ← compiled
  let set ← Focus.getSelf
  let rows ← Focus.onDatabase
    (Database.query (select.pageSql set.pageSize (index * set.pageSize) set.dedup))
  Focus.modifySelf fun set => { set with page := some ⟨index, rows.map .raw⟩ }

end RecordSetOf
end RecordAccess
