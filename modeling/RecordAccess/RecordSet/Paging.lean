import RecordAccess.Record
/-!
# Paging

The records of a set by their place in it, and walks over them. A page is fetched when a record on
it is wanted and another page is kept. A walk ends at the last record or after the first error.
-/

namespace RecordAccess

namespace Slot

/-- The record of a place, made of its row if it was not read before. -/
def toRecord (table : String) : Slot Record → Record
  | raw row => .ofRow table row
  | record r => r

end Slot

namespace RecordSetOf

/-- The slot that a place of the set has on the page kept, if it has one. -/
def slot? (set : RecordSet) (offset : Nat) : Option (Slot Record) :=
  set.page.bind fun page => page.slots[offset % set.pageSize]?

/-- The set with a record in a place of the page kept. -/
def putRecord (offset : Nat) (record : Record) (set : RecordSet) : RecordSet :=
  { set with
    page := set.page.map fun page =>
      { page with slots := page.slots.set (offset % set.pageSize) (.record record) } }

/-- Fetch the page of a place unless it is the one kept. -/
def turnTo (offset : Nat) : Access (Focus RecordSet) Unit := do
  let set ← Focus.getSelf
  let index := offset / set.pageSize
  if set.page.map Page.index != some index then loadPage index

/-- The record at a place of the set, or none past the end. -/
def at? (offset : Nat) : Access (Focus RecordSet) (Option Record) := do
  if (← count) ≤ offset then return none
  turnTo offset
  let set ← Focus.getSelf
  match set.slot? offset with
  | none => return none
  | some slot =>
    let record := slot.toRecord set.table
    Focus.modifySelf (putRecord offset record)
    return some record

end RecordSetOf

/-- A walk over the records of a set: the place of the next one, and whether an error has ended
it. -/
structure Walk where
  offset : Nat
  failed : Bool
  deriving DecidableEq

namespace Walk

/-- A walk at its start. -/
def start : Walk := ⟨0, false⟩

/-- The next item of a walk, a record or an error, and the walk after it. -/
def next? (walk : Walk) : Access (Focus RecordSet) (Option (Except Error Record) × Walk) := do
  if walk.failed then return (none, walk)
  match ← (RecordSetOf.at? walk.offset).attempt with
  | .ok (some record) => return (some (.ok record), ⟨walk.offset + 1, false⟩)
  | .ok none => return (none, ⟨walk.offset + 1, false⟩)
  | .error e => return (some (.error e), ⟨walk.offset + 1, true⟩)

/-- What a visit gives for each of at most `limit` further items of a walk. -/
def visit {α : Type} (f : Except Error Record → Access Database α) (walk : Walk) :
    (limit : Nat) → Access (Focus RecordSet) (List α)
  | 0 => return []
  | limit + 1 => do
    let (item, walk) ← walk.next?
    match item with
    | none => return []
    | some item =>
      let result ← Focus.onDatabase (f item)
      let results ← visit f walk limit
      return result :: results

end Walk

namespace RecordSetOf

/--
What a visit gives for each item of the set, of which at most `limit` are wanted. Where one is, the
rows are counted first, and their number bounds the walk; an error in counting is the only item.
-/
def visit {α : Type} (limit : Option Nat) (f : Except Error Record → Access Database α) :
    Access (Focus RecordSet) (List α) := do
  if limit = some 0 then return []
  match ← count.attempt with
  | .error e => return [← Focus.onDatabase (f (.error e))]
  | .ok total => Walk.start.visit f (match limit with | some n => min n total | none => total)

/-- The columns of an item of a walk, with the changes staged over them. -/
def itemRow : Except Error Record → Access Database Row
  | .ok record => Focus.on record Record.row
  | .error e => throw e

/-- The rows of at most `limit` records, in order. -/
def takeRows (limit : Option Nat) : Access (Focus RecordSet) (List Row) := visit limit itemRow

/-- The rows of all records, in order. -/
def toRows : Access (Focus RecordSet) (List Row) := takeRows none

/-- The JSON object of some rows of the set, with what the set was asked for. -/
def toJson (set : RecordSet) (rows : List Row) : Json :=
  .object [
    ("table", .string set.table),
    ("filter", set.filters.toJson Value.toJson),
    ("rows", .array (rows.map Row.toJson))]

/-- The laid out JSON text of all rows, `indent` tabs deep. -/
def toText (indent : Nat) : Access (Focus RecordSet) String := do
  let rows ← toRows
  return ((← Focus.getSelf).toJson rows).toText indent

end RecordSetOf
end RecordAccess
