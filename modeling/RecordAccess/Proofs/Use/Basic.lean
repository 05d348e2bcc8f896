import RecordAccess.Navigation
import RecordAccess.Proofs.Access

/-!
# Uses of objects

What a caller can do: operations on records, on record sets and on databases, as data. An operation
on a record or a set is done at the end of a path from an object that the caller has, or from some
other object over the same database (`Use`). A run of uses goes on after an operation that failed, in
the state that the failure left (`afterUses`).
-/

namespace RecordAccess
open Access

/-- An operation whose result is not looked at. -/
def Access.ignored {σ α : Type} (op : Access σ α) : Access σ Unit := op >>= fun _ => pure ()

/-- An operation leaves the same state if its result is not looked at. -/
lemma Access.runs_ignored {σ α : Type} {op : Access σ α} {s : σ} {r : Except Error α} {s' : σ}
    (h : Runs op s r s') : Runs op.ignored s (r.map fun _ => ()) s' := by
  cases r with
  | ok a => exact runs_bind.2 (.inr ⟨a, s', h, runs_pure.2 ⟨rfl, rfl⟩⟩)
  | error e => exact runs_bind.2 (.inl ⟨e, rfl, h⟩)

/-- An operation whose result is not looked at ends as it would otherwise. -/
lemma Access.runs_of_ignored {σ α : Type} {op : Access σ α} {s s' : σ} {r : Except Error Unit}
    (h : Runs op.ignored s r s') : ∃ o, r = o.map (fun _ => ()) ∧ Runs op s o s' := by
  obtain ⟨e, rfl, h₁⟩ | ⟨a, s₁, h₁, h₂⟩ := runs_bind.1 h
  · exact ⟨.error e, rfl, h₁⟩
  · obtain ⟨rfl, rfl⟩ := runs_pure.1 h₂
    exact ⟨.ok a, rfl, h₁⟩

namespace Record

/-- The operations on a record. -/
inductive Operation where
  | isFound
  | has (field : String)
  | get (field : String)
  | value (field : String)
  | one (field : String)
  | many (field : String)
  | set (field : String) (value : Value)
  | unset (field : String)
  | count
  | row
  | text (indent : Nat)
  | schema
  | column (field : String)
  | typed (field : String)

/-- Do an operation on a record. -/
def Operation.run : Operation → Access (Focus Record) Unit
  | isFound => Record.isFound.ignored
  | has field => (exists? field).ignored
  | get field => (Record.get field).ignored
  | value field => (Record.value field).ignored
  | one field => (one? field).ignored
  | many field => (many? field).ignored
  | set field v => (Record.set field v).ignored
  | unset field => Record.unset field
  | count => Record.count.ignored
  | row => Record.row.ignored
  | text indent => (toText indent).ignored
  | schema => Record.schema.ignored
  | column field => (column? field).ignored
  | typed field => (typed? field).ignored

/-- What an operation on a record gives. -/
def Operation.Answer : Operation → Type
  | isFound => Bool
  | has _ => Bool
  | get _ => Field
  | value _ => Value
  | one _ => Option Record
  | many _ => Option RecordSet
  | set _ _ => Bool
  | unset _ => Unit
  | count => Nat
  | row => Row
  | text _ => String
  | schema => TableSchema
  | column _ => Option Column
  | typed _ => Option (Column × Value)

/-- Do an operation on a record, for what it gives. -/
def Operation.answer : (operation : Operation) → Access (Focus Record) operation.Answer
  | isFound => Record.isFound
  | has field => exists? field
  | get field => Record.get field
  | value field => Record.value field
  | one field => one? field
  | many field => many? field
  | set field v => Record.set field v
  | unset field => Record.unset field
  | count => Record.count
  | row => Record.row
  | text indent => toText indent
  | schema => Record.schema
  | column field => column? field
  | typed field => typed? field

/-- To do an operation is to ask for its answer and to ignore it. -/
lemma Operation.run_eq (operation : Operation) : operation.run = operation.answer.ignored := by
  cases operation with
  | unset field => exact (bind_pure_unit (x := Record.unset field)).symm
  | _ => rfl

end Record

namespace RecordSetOf

/-- The operations on a record set. A walk over the set is taken item by item. -/
inductive Operation where
  | addFilter (key : String) (value : Value)
  | removeFilter (key : String)
  | withFilters (filters : Filters)
  | sortBy (key : String) (direction : Direction)
  | withPageSize (size : Nat)
  | withDedup (dedup : Dedup)
  | invalidate
  | count
  | at (offset : Nat)
  | next (walk : Walk)
  | rows (limit : Option Nat)
  | text (indent : Nat)

/-- Do an operation on a record set. -/
def Operation.run : Operation → Access (Focus RecordSet) Unit
  | addFilter key value => Focus.modifySelf fun set => set.addFilter key value
  | removeFilter key => Focus.modifySelf fun set => (set.removeFilter key).2
  | withFilters filters => Focus.modifySelf fun set => set.withFilters filters
  | sortBy key direction => Focus.modifySelf fun set => set.sortBy key direction
  | withPageSize size => Focus.modifySelf fun set => set.withPageSize size
  | withDedup dedup => Focus.modifySelf fun set => set.withDedup dedup
  | invalidate => Focus.modifySelf RecordSetOf.invalidate
  | count => RecordSetOf.count.ignored
  | .at offset => (at? offset).ignored
  | next walk => walk.next?.ignored
  | rows limit => (takeRows limit).ignored
  | text indent => (toText indent).ignored

/-- What an operation on a record set gives. -/
def Operation.Answer : Operation → Type
  | addFilter _ _ => Unit
  | removeFilter _ => Option Value
  | withFilters _ => Unit
  | sortBy _ _ => Unit
  | withPageSize _ => Unit
  | withDedup _ => Unit
  | invalidate => Unit
  | count => Nat
  | .at _ => Option Record
  | next _ => Option (Except Error Record) × Walk
  | rows _ => List Row
  | text _ => String

/-- Do an operation on a record set, for what it gives. -/
def Operation.answer : (operation : Operation) → Access (Focus RecordSet) operation.Answer
  | addFilter key value => Focus.modifySelf fun set => set.addFilter key value
  | removeFilter key => do
    let (removed, set) := (← Focus.getSelf).removeFilter key
    Focus.modifySelf fun _ => set
    return removed
  | withFilters filters => Focus.modifySelf fun set => set.withFilters filters
  | sortBy key direction => Focus.modifySelf fun set => set.sortBy key direction
  | withPageSize size => Focus.modifySelf fun set => set.withPageSize size
  | withDedup dedup => Focus.modifySelf fun set => set.withDedup dedup
  | invalidate => Focus.modifySelf RecordSetOf.invalidate
  | count => RecordSetOf.count
  | .at offset => at? offset
  | next walk => walk.next?
  | rows limit => takeRows limit
  | text indent => toText indent

/-- To do an operation is to ask for its answer and to ignore it. -/
lemma Operation.run_eq (operation : Operation) : operation.run = operation.answer.ignored := by
  cases operation <;> rfl

end RecordSetOf

namespace Database

/-- The operations on a database. -/
inductive Operation where
  | query (sql : String)
  | tableExists (name : String)
  | invalidateTables
  | columnsFor (table : String)
  | hasColumn (table name : String)

/-- Do an operation on a database. -/
def Operation.run : Operation → Access Database Unit
  | query sql => (Database.query sql).ignored
  | tableExists name => (Database.tableExists name).ignored
  | invalidateTables => Database.invalidateTables
  | columnsFor table => (Database.columnsFor table).ignored
  | hasColumn table name => (Database.hasColumn table name).ignored

/-- What an operation on a database gives. -/
def Operation.Answer : Operation → Type
  | query _ => List Row
  | tableExists _ => Bool
  | invalidateTables => Unit
  | columnsFor _ => TableSchema
  | hasColumn _ _ => Bool

/-- Do an operation on a database, for what it gives. -/
def Operation.answer : (operation : Operation) → Access Database operation.Answer
  | query sql => Database.query sql
  | tableExists name => Database.tableExists name
  | invalidateTables => Database.invalidateTables
  | columnsFor table => Database.columnsFor table
  | hasColumn table name => Database.hasColumn table name

end Database

namespace Entity

/-- An operation on the record of an entity runs on the record over the same database. -/
lemma runs_onRecord {α : Type} {record : Record} {op : Access (Focus Record) α} {s : Focus Entity}
    {r : Except Error α} {s' : Focus Entity} :
    Runs (onRecord record op) s r s' ↔
      ∃ t, Runs op ⟨record, s.database⟩ r t ∧ s' = ⟨.one t.self, t.database⟩ := by
  simp [onRecord, runs_zoom]

/-- An operation on the set of an entity runs on the set over the same database. -/
lemma runs_onSet {α : Type} {set : RecordSet} {op : Access (Focus RecordSet) α} {s : Focus Entity}
    {r : Except Error α} {s' : Focus Entity} :
    Runs (onSet set op) s r s' ↔
      ∃ t, Runs op ⟨set, s.database⟩ r t ∧ s' = ⟨.many t.self, t.database⟩ := by
  simp [onSet, runs_zoom]

/-- The operations on an object. -/
inductive Operation where
  | record (operation : Record.Operation)
  | set (operation : RecordSetOf.Operation)

/-- Do an operation on an object; one for the other kind of objects does nothing. -/
def Operation.run (operation : Operation) : Access (Focus Entity) Unit := do
  match operation, (← Focus.getSelf) with
  | record op, .one r => onRecord r op.run
  | set op, .many s => onSet s op.run
  | _, _ => return

/-- What an operation on an object gives. -/
def Operation.Answer : Operation → Type
  | record op => op.Answer
  | set op => op.Answer

/-- Do an operation on an object, for what it gives; one for the other kind of objects gives
nothing. -/
def Operation.answer : (operation : Operation) → Access (Focus Entity) (Option operation.Answer)
  | record op => do
    match ← Focus.getSelf with
    | .one r => return some (← onRecord r op.answer)
    | .many _ => return none
  | set op => do
    match ← Focus.getSelf with
    | .one _ => return none
    | .many s => return some (← onSet s op.answer)

/-- Do an operation at the end of a path. -/
def reach (path : List Step) (operation : Operation) : Access (Focus Entity) Unit :=
  (follow operation.run path).ignored

/-- A use of an object or of the database it works over. -/
inductive Use where
  /-- at the end of a path from the object -/
  | here (path : List Step) (operation : Operation)
  /-- at the end of a path from another object over the same database -/
  | elsewhere (other : Entity) (path : List Step) (operation : Operation)
  | database (operation : Database.Operation)

/-- Make use of an object. -/
def Use.run : Use → Access (Focus Entity) Unit
  | here path operation => reach path operation
  | elsewhere other path operation => Focus.onDatabase (Focus.on other (reach path operation))
  | database operation => Focus.onDatabase operation.run

/-- The object and the database after some uses, whether they failed or not. -/
def afterUses (uses : List Use) (s : Focus Entity) : Focus Entity :=
  uses.foldl (fun s use => (use.run.outcome s).2) s

end Entity
end RecordAccess
