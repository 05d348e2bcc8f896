import RecordAccess.Error
/-!
# Access to a Database

Operations that may fail and that change a state on the way. What is changed before a failure stays
changed: a count, once known, is kept though the page after it fails to load.
-/

namespace RecordAccess

/-- An operation on a state that ends in a result or an error. -/
abbrev Access (σ α : Type) : Type := EStateM Error σ α

namespace Access

variable {σ τ α : Type}

/-- An operation on a part of a state. -/
def zoom (part : σ → τ) (replace : τ → σ → σ) (operation : Access τ α) : Access σ α := fun s =>
  match operation (part s) with
  | .ok a t => .ok a (replace t s)
  | .error e t => .error e (replace t s)

/-- The result of an operation as a value, so that what follows can deal with its error. -/
def attempt (operation : Access σ α) : Access σ (Except Error α) := fun s =>
  match operation s with
  | .ok a s => .ok (.ok a) s
  | .error e s => .ok (.error e) s

/-- The result of an operation, or its error, and the state it leaves. -/
def outcome (operation : Access σ α) (s : σ) : Except Error α × σ :=
  match operation s with
  | .ok a s => (.ok a, s)
  | .error e s => (.error e, s)

end Access
end RecordAccess
