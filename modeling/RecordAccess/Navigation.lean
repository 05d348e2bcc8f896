import RecordAccess.RecordSet.Paging
/-!
# Navigation

Paths from one object to another: from a record to the related objects of its fields, and from a set
to its records. The objects on the way are those that the records and sets keep, so that what is
changed at the end of a path is seen by later users of the same path.
-/

namespace RecordAccess

/-- A step of a path. -/
inductive Step where
  /-- to the related record of a field -/
  | one (field : String)
  /-- to the related set of a field -/
  | many (field : String)
  /-- to the record at a place of a set -/
  | at (offset : Nat)
  deriving DecidableEq

namespace Entity

/-- An operation on a record that stands for the object. -/
def onRecord {α : Type} (record : Record) (operation : Access (Focus Record) α) :
    Access (Focus Entity) α :=
  operation.zoom (fun s => ⟨record, s.database⟩) fun t _ => ⟨.one t.self, t.database⟩

/-- An operation on a record set that stands for the object. -/
def onSet {α : Type} (set : RecordSet) (operation : Access (Focus RecordSet) α) :
    Access (Focus Entity) α :=
  operation.zoom (fun s => ⟨set, s.database⟩) fun t _ => ⟨.many t.self, t.database⟩

/-- The object that a step leads to, which the object it starts from then keeps. -/
def find? (step : Step) : Access (Focus Entity) (Option Entity) := do
  match step, (← Focus.getSelf) with
  | .one field, .one record => return (← onRecord record (Record.one? field)).map .one
  | .many field, .one record => return (← onRecord record (Record.many? field)).map .many
  | .at offset, .many set => return (← onSet set (RecordSetOf.at? offset)).map .one
  | _, _ => return none

/-- The object with another object kept where a step leads. -/
def put (step : Step) (inner outer : Entity) : Entity :=
  match step, inner, outer with
  | .one field, inner, .one record => .one (record.keep field inner)
  | .many field, inner, .one record => .one (record.keep field inner)
  | .at offset, .one inner, .many set => .many (set.putRecord offset inner)
  | _, _, outer => outer

/-- An operation on the object at the end of a path, or the first step that leads nowhere. -/
def follow {α : Type} (operation : Access (Focus Entity) α) :
    List Step → Access (Focus Entity) (Except Step α)
  | [] => return .ok (← operation)
  | step :: path => do
    match ← find? step with
    | none => return .error step
    | some inner => Focus.onPart inner (put step) (follow operation path)

end Entity
end RecordAccess
