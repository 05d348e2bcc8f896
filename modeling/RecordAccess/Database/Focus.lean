import RecordAccess.Database.Catalog
/-!
# Objects over a Database

The state of an operation on an object, such as a record, that works over a database: the object and
the database side by side.
-/

namespace RecordAccess

/-- An object and the database that it works over. -/
structure Focus (σ : Type) where
  self : σ
  database : Database

namespace Focus

variable {σ τ α : Type}

/-- The object. -/
def getSelf : Access (Focus σ) σ := do
  return (← get).self

/-- Change the object. -/
def modifySelf (change : σ → σ) : Access (Focus σ) Unit :=
  modify fun s => { s with self := change s.self }

/-- An operation on the database alone. -/
def onDatabase (operation : Access Database α) : Access (Focus σ) α :=
  operation.zoom Focus.database fun db s => { s with database := db }

/-- An operation on a part of the object, over the same database. -/
def onPart (part : τ) (replace : τ → σ → σ) (operation : Access (Focus τ) α) :
    Access (Focus σ) α :=
  operation.zoom (fun s => ⟨part, s.database⟩) fun t s => ⟨replace t.self s.self, t.database⟩

/-- An operation on an object that is given up afterwards. -/
def on (object : σ) (operation : Access (Focus σ) α) : Access Database α :=
  operation.zoom (fun db => ⟨object, db⟩) fun s _ => s.database

end Focus
end RecordAccess
