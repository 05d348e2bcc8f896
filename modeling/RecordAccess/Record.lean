import RecordAccess.RecordSet.Basic
/-!
# Records

A row of a table, fetched when one of its columns is first needed, with changes staged over it. By
naming convention a column `x_id` holds the identity of a row of table `x`, which is the field `x`;
and a field `x_list` is the set of the rows of table `x` that point back with their column `t_id`,
for a record of table `t`. Related objects are made once and kept.
-/

namespace RecordAccess

/-- A related object: one record, or a set of records. -/
inductive Relation (ρ : Type) where
  | one (record : ρ)
  | many (set : RecordSetOf ρ)

/-- A record. -/
structure Record where
  table : String
  /-- The stored row, or the identity alone before it is fetched. -/
  persisted : Row
  /-- The staged changes. -/
  overlay : Row
  /-- The related objects made so far, by field. -/
  relations : List (String × Relation Record)
  /-- Whether the stored row was asked for. -/
  fetched : Bool
  /-- Whether there is a stored row. -/
  found : Bool

/-- A set of records. -/
abbrev RecordSet := RecordSetOf Record

/-- An object in reach of a caller: a record or a set of records. -/
abbrev Entity := Relation Record

/-- What a field of a record is. -/
inductive Field where
  | value (value : Value)
  | related (entity : Entity)

/-- The value of a field; a related object counts as null. -/
def Field.toValue : Field → Value
  | value v => v
  | related _ => .null

namespace Record

/-- The column of the identity. -/
def idName : String := "id"

/-- The ending of the columns that hold the identity of another row. -/
def foreignKeyEnding : String := "_id"

/-- The ending of the fields that are sets of rows pointing back. -/
def collectionEnding : String := "_list"

/-- The name without an ending that it has. -/
def without? (ending name : String) : Option String :=
  (beforeEnding? ending.toList name.toList).map String.ofList

/-- A record in its initial state. -/
def ofPersisted (table : String) (persisted : Row) (fetched : Bool) : Record where
  table := lowercase table
  persisted := persisted
  overlay := .empty
  relations := []
  fetched := fetched
  found := fetched && !persisted.isEmpty

/-- The record of an identity, of which nothing else is known yet. -/
def ofId (table : String) (id : Int64) : Record :=
  ofPersisted table (OrderedMap.empty.insert idName (.int id)) false

/-- The record of a whole row. A row without identity has no fields; one with nothing else is
fetched when needed. -/
def ofRow (table : String) (row : Row) : Record :=
  let persisted := if row.contains idName then row else .empty
  ofPersisted table persisted (persisted.size != 1)

/-- The value of a column: the staged one, else the stored one. -/
def current? (r : Record) (name : String) : Option Value :=
  match r.overlay.get? name with
  | some value => some value
  | none => r.persisted.get? name

/-- The identity of the record, zero if unknown. -/
def id (r : Record) : Int64 := ((r.current? idName).bind Value.asInt?).getD 0

/-- Whether the stored row is still to be fetched. -/
def isLazy (r : Record) : Bool :=
  !r.fetched && r.persisted.size == 1 && r.persisted.contains idName

/-- Whether any change is staged. -/
def isDirty (r : Record) : Bool := !r.overlay.isEmpty

/-- The staged changes, in the order in which they were made. -/
def changes (r : Record) : Row := r.overlay

/-- The identity under which the row is fetched. -/
def fetchId (r : Record) : Int64 := ((r.persisted.get? idName).bind Value.asInt?).getD 0

/-- The record once its row was asked for with some answer. -/
def received (r : Record) (rows : List Row) : Record :=
  match rows with
  | row :: _ => { r with persisted := row, fetched := true, found := true }
  | [] => { r with fetched := true }

/-- Fetch the stored row unless that was done. -/
def hydrate : Access (Focus Record) Unit := do
  let r ← Focus.getSelf
  if r.isLazy then
    let backend ← Focus.onDatabase Database.backend
    let rows ← Focus.onDatabase (Database.query (recordSql backend r.table r.fetchId))
    Focus.modifySelf fun r => r.received rows

/-- Whether there is a stored row. -/
def isFound : Access (Focus Record) Bool := do
  hydrate
  return (← Focus.getSelf).found

/-- Whether a fetched record has a field: a column, a field whose identity is a column, or any
collection. -/
def hasField (r : Record) (field : String) : Bool :=
  r.persisted.contains field || r.persisted.contains (field ++ foreignKeyEnding)
    || (without? collectionEnding field).isSome

/-- Whether the record has a field. -/
def exists? (field : String) : Access (Focus Record) Bool := do
  hydrate
  return (← Focus.getSelf).hasField field

/-- The set of the rows that point back at the record, for a collection of a stored record. -/
def collection? (r : Record) (field : String) : Option RecordSet :=
  match without? collectionEnding field with
  | some child =>
    if 0 < r.id.toInt then
      some ((RecordSetOf.ofTable child).addFilter (r.table ++ foreignKeyEnding) (.int r.id))
    else none
  | none => none

/-- The record that a field's identity names; a null or unreadable identity names none. -/
def foreign? (r : Record) (field : String) : Option Record :=
  match r.current? (field ++ foreignKeyEnding) with
  | some key => if key.isNull then none else key.asInt?.map (ofId field)
  | none => none

/-- The related object of a field, made anew. -/
def resolve? (r : Record) (field : String) : Option Entity :=
  match r.collection? field with
  | some set => some (.many set)
  | none => (r.foreign? field).map .one

/-- The record with a related object kept for a field. -/
def keep (field : String) (entity : Entity) (r : Record) : Record :=
  { r with relations := Entries.put field entity r.relations }

/-- What a field of a fetched record is, with the record as it is afterwards. A related object is
kept. -/
def read (r : Record) (field : String) : Field × Record :=
  match r.current? field with
  | some value => (.value value, r)
  | none =>
    match Entries.get? field r.relations with
    | some entity => (.related entity, r)
    | none =>
      match r.resolve? field with
      | some entity => (.related entity, r.keep field entity)
      | none => (.value .null, r)

/-- What a field is: its staged or stored value, else its related object, else null. -/
def get (field : String) : Access (Focus Record) Field := do
  if !(← exists? field) then return .value .null
  let (found, r) := (← Focus.getSelf).read field
  Focus.modifySelf fun _ => r
  return found

/-- The value of a field; related objects and unknown fields are null. -/
def value (field : String) : Access (Focus Record) Value := do
  return (← get field).toValue

/-- The related record of a field. -/
def one? (field : String) : Access (Focus Record) (Option Record) := do
  match ← get field with
  | .related (.one record) => return some record
  | _ => return none

/-- The related set of a field. -/
def many? (field : String) : Access (Focus Record) (Option RecordSet) := do
  match ← get field with
  | .related (.many set) => return some set
  | _ => return none

/-- The record with a value staged. A related object found by that value is given up. -/
def stage (r : Record) (field : String) (value : Value) : Record :=
  { r with
    overlay := r.overlay.insert field value
    relations :=
      match without? foreignKeyEnding field with
      | some relation => Entries.remove relation r.relations
      | none => r.relations }

/-- Whether a field is something else than a value. -/
def differs (field : Field) (value : Value) : Bool :=
  match field with
  | .value current => !current.same value
  | .related _ => true

/-- Stage a change, unless the record lacks the field or the field has that value. The result tells
whether the change was staged. -/
def set (field : String) (value : Value) : Access (Focus Record) Bool := do
  if !(← exists? field) then return false
  if !differs (← get field) value then return false
  Focus.modifySelf fun r => r.stage field value
  return true

/-- The value of a field that is cleared. -/
def cleared (field : String) : Value := if field = idName then .int 0 else .null

/-- Stage the clearing of a field, if the record has it. -/
def unset (field : String) : Access (Focus Record) Unit := do
  if ← exists? field then
    Focus.modifySelf fun r => r.stage field (cleared field)

/-- The number of columns. -/
def count : Access (Focus Record) Nat := do
  hydrate
  return (← Focus.getSelf).persisted.size

/-- The stored columns with the changes staged over them. -/
def effectiveRow (r : Record) : Row :=
  r.persisted.mapEntries fun name value => (r.overlay.get? name).getD value

/-- The columns with the changes staged over them, in column order. -/
def row : Access (Focus Record) Row := do
  hydrate
  return (← Focus.getSelf).effectiveRow

/-- The laid out JSON text of the row, `indent` tabs deep. -/
def toText (indent : Nat) : Access (Focus Record) String := do
  return (Row.toJson (← row)).toText indent

/-- The schema of the record's table. -/
def schema : Access (Focus Record) TableSchema := do
  let table := (← Focus.getSelf).table
  Focus.onDatabase (Database.columnsFor table)

/-- The column of a field, if it is mapped. -/
def column? (field : String) : Access (Focus Record) (Option Column) := do
  return (← schema).column? field

/-- The column of a field and the field's value converted to its type, if it is mapped. -/
def typed? (field : String) : Access (Focus Record) (Option (Column × Value)) := do
  match ← column? field with
  | none => return none
  | some column => return some (column, column.coerce (← value field))

end Record
end RecordAccess
