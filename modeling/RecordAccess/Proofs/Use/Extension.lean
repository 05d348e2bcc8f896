import RecordAccess.Proofs.Database.Extension
import RecordAccess.Proofs.RecordSet.Fetching
import RecordAccess.Proofs.Use.Composition

/-!
# All operations extend the database

Operations on records and record sets are put together from operations on the database (`Composed`),
each of which extends it. So they extend it (`Composed.keeps`), and so does what is done at the end of any
path through an object (`keeps_follow`), whether it fails or not.
-/

namespace RecordAccess
open Access Database

/-- The database of an object extends a database. -/
def Focus.Over {σ : Type} (db₀ : Database) (s : Focus σ) : Prop := Extends db₀ s.database

section Objects
variable {σ τ α : Type} {db₀ : Database}

namespace Focus

/-- An operation on the database extends it under an object. -/
lemma keeps_onDatabase {op : Access Database α} (h : Keeps (Extends db₀) op) :
    Keeps (Over (σ := σ) db₀) (onDatabase op) :=
  keeps_zoom (fun _ hs => hs) (fun _ _ _ ht => ht) h

/-- An operation on a part of an object extends the database under it. -/
lemma keeps_onPart {part : τ} {replace : τ → σ → σ} {op : Access (Focus τ) α}
    (h : Keeps (Over db₀) op) : Keeps (Over db₀) (onPart part replace op) :=
  keeps_zoom (fun _ hs => hs) (fun _ _ _ ht => ht) h

/-- An operation on another object extends the database under it. -/
lemma keeps_on {object : σ} {op : Access (Focus σ) α} (h : Keeps (Over db₀) op) :
    Keeps (Extends db₀) (on object op) :=
  keeps_zoom (fun _ hs => hs) (fun _ _ _ ht => ht) h

end Focus

/-- What an operation keeps is kept where its result is ignored. -/
lemma keeps_ignored {P : σ → Prop} {op : Access σ α} (h : Keeps P op) : Keeps P op.ignored :=
  keeps_bind h fun _ => keeps_pure ()

/-- The operations that others are put together from extend the database. -/
lemma Database.Primitive.keeps {op : Access Database α} (h : Primitive op) :
    Keeps (Extends db₀) op := by
  cases h with
  | backend => exact keeps_bind keeps_getHandles fun _ => keeps_pure _
  | query sql => exact keeps_query sql
  | knownTables => exact keeps_knownTables
  | invalidateTables => exact keeps_invalidateTables
  | columnsFor name => exact keeps_columnsFor name

/-- What is put together from operations on the database extends it. -/
lemma Composed.keeps {op : Access (Focus σ) α} (h : Composed op) : Keeps (Focus.Over db₀) op := by
  induction h with
  | pure a => exact keeps_pure a
  | getSelf => exact keeps_bind keeps_get fun _ => keeps_pure _
  | modifySelf change => exact keeps_modify fun _ hs => hs
  | onDatabase h => exact Focus.keeps_onDatabase h.keeps
  | bind _ _ ihop ihf => exact keeps_bind ihop ihf
  | onPart part replace _ ih => exact Focus.keeps_onPart ih

/-- The operations on a database extend it. -/
lemma Database.keeps_operation (operation : Database.Operation) :
    Keeps (Extends db₀) operation.run := by
  cases operation with
  | query sql => exact keeps_ignored (keeps_query sql)
  | tableExists name => exact keeps_ignored (keeps_tableExists name)
  | invalidateTables => exact keeps_invalidateTables
  | columnsFor table => exact keeps_ignored (keeps_columnsFor table)
  | hasColumn table name => exact keeps_ignored (keeps_hasColumn table name)

namespace RecordSetOf
open Focus

/-- To read the row of an item extends the database. -/
lemma keeps_itemRow (item : Except Error Record) : Keeps (Extends db₀) (itemRow item) := by
  cases item with
  | ok record => exact keeps_on (Record.composed_hydrated Record.effectiveRow).keeps
  | error e => exact keeps_throw e

/-- An operation extends the database, though a walk does not raise its errors. -/
lemma keeps_operation (operation : RecordSetOf.Operation) : Keeps (Over db₀) operation.run := by
  have hraised : Keeps (Over db₀) operation.raised := (composed_operation operation).keeps
  cases operation with
  | next walk => exact keeps_ignored (keeps_next? (fun offset => (composed_at? offset).keeps) walk)
  | _ => exact hraised

end RecordSetOf

namespace Entity
open Focus

/-- The operations on an object extend the database under it. -/
lemma keeps_operation (operation : Entity.Operation) : Keeps (Over db₀) operation.run := by
  refine keeps_bind (Composed.getSelf).keeps fun entity => ?_
  split
  · exact (composed_onRecord _ (Record.composed_operation _)).keeps
  · exact keeps_zoom (fun _ hs => hs) (fun _ _ _ ht => ht) (RecordSetOf.keeps_operation _)
  · exact keeps_pure ()

/-- What is done at the end of a path extends the database as all steps there do. -/
lemma keeps_follow {op : Access (Focus Entity) α} (h : Keeps (Over db₀) op) (path : List Step) :
    Keeps (Over db₀) (follow op path) := by
  induction path with
  | nil => exact keeps_bind h fun _ => keeps_pure _
  | cons step path ih =>
    refine keeps_bind (composed_find? step).keeps fun found => ?_
    cases found with
    | none => exact keeps_pure _
    | some inner => exact keeps_onPart ih

/-- An operation at the end of a path extends the database under the object. -/
lemma keeps_reach (path : List Step) (operation : Entity.Operation) :
    Keeps (Over db₀) (reach path operation) :=
  keeps_ignored (keeps_follow (keeps_operation operation) path)

end Entity

end Objects
end RecordAccess
