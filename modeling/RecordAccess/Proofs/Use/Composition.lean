import RecordAccess.Proofs.Database.Connection
import RecordAccess.Proofs.Use.Basic

/-!
# How operations are put together

An operation on an object comes to the database by a few operations on it (`Primitive`), which are put
together one after another, and on parts of the object (`Composed`). This is shown once for each
operation; what holds of all that is put together so is then an induction over the ways to do it.

The one operation apart is the next item of a walk, which gives an error as an item. The operation that
raises this error (`RecordSetOf.Operation.raised`, `Entity.Use.raised`) is put together as the others.
-/

namespace RecordAccess
open Access Database

/-- The operations on a database that others are put together from. -/
inductive Database.Primitive : {α : Type} → Access Database α → Prop where
  | backend : Primitive backend
  | query (sql : String) : Primitive (query sql)
  | knownTables : Primitive knownTables
  | invalidateTables : Primitive invalidateTables
  | columnsFor (name : String) : Primitive (columnsFor name)

/-- An operation that is put together from operations on the database. -/
inductive Composed : {σ α : Type} → Access (Focus σ) α → Prop where
  | pure {σ α : Type} (a : α) :
    Composed (pure a : Access (Focus σ) α)
  | getSelf {σ : Type} :
    Composed (Focus.getSelf : Access (Focus σ) σ)
  | modifySelf {σ : Type} (change : σ → σ) :
    Composed (Focus.modifySelf change)
  | onDatabase {σ α : Type} {op : Access Database α} :
    Primitive op →
    Composed (Focus.onDatabase op : Access (Focus σ) α)
  | bind {σ α β : Type} {op : Access (Focus σ) α} {f : α → Access (Focus σ) β} :
    Composed op →
    (∀ a, Composed (f a)) →
    Composed (op >>= f)
  | onPart {σ τ α : Type} {op : Access (Focus τ) α} (part : τ) (replace : τ → σ → σ) :
    Composed op →
    Composed (Focus.onPart part replace op)

section Objects
variable {σ τ α β : Type}

/-- What comes after an attempt and raises its error comes after the operation. -/
lemma Access.attempt_bind {op : Access σ α} {f : Except Error α → Access σ β}
    (hf : ∀ e, f (.error e) = throw e) : op.attempt >>= f = op >>= fun a => f (.ok a) := by
  funext s
  simp only [attempt, bind, EStateM.bind]
  cases op s with
  | ok a s' => rfl
  | error e s' => exact congrFun (hf e) s'

/-- An operation ends as another one does, but may raise an error where the other one succeeds. -/
def Raises (op op' : Access σ α) : Prop :=
  ∀ s r s', Runs op' s r s' → ∃ o, Runs op s o s' ∧ (o = r ∨ o.isOk = true ∧ ∃ e, r = .error e)

namespace Raises

/-- An operation ends as it does itself. -/
lemma refl (op : Access σ α) : Raises op op := fun _ r _ h => ⟨r, h, .inl rfl⟩

/-- A result that is mapped is one whether or not an error is raised before. -/
lemma map {op op' : Access σ α} (h : Raises op op') (f : α → β) :
    Raises (op >>= fun a => pure (f a)) (op' >>= fun a => pure (f a)) := by
  intro s r s' hrun
  obtain ⟨e, rfl, hop⟩ | ⟨a, s₁, hop, hrest⟩ := runs_bind.1 hrun
  · obtain ⟨o, ho, rfl | ⟨hok, -⟩⟩ := h s _ s' hop
    · exact ⟨.error e, runs_bind.2 (.inl ⟨e, rfl, ho⟩), .inl rfl⟩
    · cases o with
      | ok a => exact ⟨.ok (f a), runs_bind.2 (.inr ⟨a, s', ho, rfl⟩), .inr ⟨rfl, e, rfl⟩⟩
      | error e => cases hok
  · obtain ⟨rfl, rfl⟩ := runs_pure.1 hrest
    obtain ⟨o, ho, rfl | ⟨-, e, he⟩⟩ := h s _ s' hop
    · exact ⟨.ok (f a), runs_bind.2 (.inr ⟨a, s', ho, rfl⟩), .inl rfl⟩
    · cases he

/-- An operation before leaves what may be raised after it. -/
lemma bind (op : Access σ α) {f f' : α → Access σ β} (h : ∀ a, Raises (f a) (f' a)) :
    Raises (op >>= f) (op >>= f') := by
  intro s r s' hrun
  obtain ⟨e, rfl, hop⟩ | ⟨a, s₁, hop, hrest⟩ := runs_bind.1 hrun
  · exact ⟨.error e, runs_bind.2 (.inl ⟨e, rfl, hop⟩), .inl rfl⟩
  · obtain ⟨o, ho, hraises⟩ := h a s₁ r s' hrest
    exact ⟨o, runs_bind.2 (.inr ⟨a, s₁, hop, ho⟩), hraises⟩

/-- What an operation on a part may raise, the one on the whole may. -/
lemma zoom {part : σ → τ} {replace : τ → σ → σ} {op op' : Access τ α} (h : Raises op op') :
    Raises (op.zoom part replace) (op'.zoom part replace) := by
  intro s r s' hrun
  obtain ⟨t, ht, rfl⟩ := runs_zoom.1 hrun
  obtain ⟨o, ho, hraises⟩ := h _ r t ht
  exact ⟨o, runs_zoom.2 ⟨t, ho, rfl⟩, hraises⟩

end Raises

namespace Focus

/-- To return a value needs no database. -/
lemma onDatabase_pure (a : α) : (onDatabase (pure a) : Access (Focus σ) α) = pure a := rfl

/-- Two operations on the database in a row are two over it. -/
lemma onDatabase_bind (op : Access Database α) (f : α → Access Database β) :
    (onDatabase (op >>= f) : Access (Focus σ) β) = onDatabase op >>= fun a => onDatabase (f a) := by
  funext s
  simp only [onDatabase, zoom, bind, EStateM.bind]
  cases op s.database with
  | ok a db => cases f a db <;> rfl
  | error e db => rfl

/-- An operation on an object that is given up is one on a part that is not put back. -/
lemma onDatabase_on (object : τ) (op : Access (Focus τ) α) :
    (onDatabase (on object op) : Access (Focus σ) α) = onPart object (fun _ s => s) op := by
  funext s
  simp only [onDatabase, on, onPart, zoom]
  cases op ⟨object, s.database⟩ <;> rfl

end Focus

namespace Composed
open Focus

/-- An operation stays composed where its result is ignored. -/
lemma ignored {op : Access (Focus σ) α} (h : Composed op) : Composed op.ignored :=
  h.bind fun _ => .pure ()

/-- An operation on the database that makes something of the result of another one. -/
lemma onDatabase_map {op : Access Database α} (h : Primitive op) (f : α → β) :
    Composed (Focus.onDatabase (op >>= fun a => Pure.pure (f a)) : Access (Focus σ) β) := by
  rw [onDatabase_bind]
  exact .bind (.onDatabase h) fun a => onDatabase_pure (f a) ▸ .pure (f a)

/-- To ask for the backend is composed. -/
lemma backend : Composed (Focus.onDatabase backend : Access (Focus σ) Backend) :=
  .onDatabase .backend

/-- A query is composed. -/
lemma query (sql : String) : Composed (Focus.onDatabase (query sql) : Access (Focus σ) _) :=
  .onDatabase (.query sql)

/-- A composed operation on another object over the same database is composed. -/
lemma on (object : τ) {op : Access (Focus τ) α} (h : Composed op) :
    Composed (Focus.onDatabase (Focus.on object op) : Access (Focus σ) α) := by
  rw [onDatabase_on]
  exact .onPart object _ h

end Composed

/-- The operations on a database are composed. -/
lemma Database.composed_operation (operation : Database.Operation) :
    Composed (Focus.onDatabase operation.run : Access (Focus σ) Unit) := by
  cases operation with
  | query sql => exact Composed.onDatabase_map (.query sql) _
  | tableExists name =>
    rw [Operation.run, ignored, Focus.onDatabase_bind]
    exact (Composed.onDatabase_map .knownTables _).bind fun _ => .pure ()
  | invalidateTables => exact .onDatabase .invalidateTables
  | columnsFor table => exact Composed.onDatabase_map (.columnsFor table) _
  | hasColumn table name =>
    rw [Operation.run, ignored, Focus.onDatabase_bind]
    exact (Composed.onDatabase_map (.columnsFor table) _).bind fun _ => .pure ()

namespace Record

/-- To fetch the row is composed. -/
lemma composed_hydrate : Composed hydrate := by
  refine .bind .getSelf fun r => ?_
  split
  · exact .bind .backend fun b => .bind (.query _) fun rows => .modifySelf _
  · exact .pure ()

/-- To look at a record once it is fetched. -/
lemma composed_hydrated (look : Record → α) : Composed (do hydrate; return look (← Focus.getSelf)) :=
  .bind composed_hydrate fun _ => .bind .getSelf fun _ => .pure _

/-- To look at a field is composed. -/
lemma composed_get (field : String) : Composed (Record.get field) := by
  refine .bind (composed_hydrated fun r => r.hasField field) fun found => ?_
  split
  · exact .pure _
  · exact .bind .getSelf fun r => .bind (.modifySelf _) fun _ => .pure _

/-- To ask for a value is composed. -/
lemma composed_value (field : String) : Composed (value field) :=
  .bind (composed_get field) fun _ => .pure _

/-- To ask for a related record is composed. -/
lemma composed_one? (field : String) : Composed (one? field) := by
  refine .bind (composed_get field) fun found => ?_
  split
  · exact .pure _
  · exact .pure _

/-- To ask for a related set is composed. -/
lemma composed_many? (field : String) : Composed (many? field) := by
  refine .bind (composed_get field) fun found => ?_
  split
  · exact .pure _
  · exact .pure _

/-- To set a field is composed. -/
lemma composed_set (field : String) (v : Value) : Composed (Record.set field v) := by
  refine .bind (composed_hydrated fun r => r.hasField field) fun found => ?_
  split
  · exact .pure _
  · refine .bind (composed_get field) fun current => ?_
    split
    · exact .pure _
    · exact .bind (.modifySelf _) fun _ => .pure _

/-- To clear a field is composed. -/
lemma composed_unset (field : String) : Composed (Record.unset field) := by
  refine .bind (composed_hydrated fun r => r.hasField field) fun found => ?_
  split
  · exact .modifySelf _
  · exact .pure _

/-- To ask for the schema is composed. -/
lemma composed_schema : Composed schema :=
  .bind .getSelf fun _ => .onDatabase (.columnsFor _)

/-- To ask for a column is composed. -/
lemma composed_column? (field : String) : Composed (column? field) :=
  .bind composed_schema fun _ => .pure _

/-- To ask for a typed value is composed. -/
lemma composed_typed? (field : String) : Composed (typed? field) := by
  refine .bind (composed_column? field) fun column => ?_
  cases column with
  | none => exact .pure _
  | some column => exact .bind (composed_value field) fun _ => .pure _

/-- The operations on a record are composed, with their answers. -/
lemma composed_answer (operation : Record.Operation) : Composed operation.answer := by
  cases operation with
  | isFound => exact composed_hydrated Record.found
  | has field => exact composed_hydrated fun r => r.hasField field
  | get field => exact composed_get field
  | value field => exact composed_value field
  | one field => exact composed_one? field
  | many field => exact composed_many? field
  | set field v => exact composed_set field v
  | unset field => exact composed_unset field
  | count => exact composed_hydrated fun r => r.persisted.size
  | row => exact composed_hydrated effectiveRow
  | text indent => exact .bind (composed_hydrated effectiveRow) fun _ => .pure _
  | schema => exact composed_schema
  | column field => exact composed_column? field
  | typed field => exact composed_typed? field

/-- The operations on a record are composed. -/
lemma composed_operation (operation : Record.Operation) : Composed operation.run := by
  rw [Operation.run_eq]
  exact (composed_answer operation).ignored

end Record

namespace RecordSetOf

/-- To compile the query of a set is composed. -/
lemma composed_compiled {ρ : Type} : Composed (compiled (ρ := ρ)) :=
  .bind .backend fun _ => .bind .getSelf fun _ => .pure _

/-- To count is composed. -/
lemma composed_count {ρ : Type} : Composed (count (ρ := ρ)) := by
  refine .bind .getSelf fun set => ?_
  split
  · exact .pure _
  · refine .bind composed_compiled fun select => .bind (.query _) fun rows => ?_
    exact .bind (.modifySelf _) fun _ => .pure _

/-- To load a page is composed. -/
lemma composed_loadPage {ρ : Type} (index : Nat) : Composed (loadPage (ρ := ρ) index) :=
  .bind composed_compiled fun _ => .bind .getSelf fun _ => .bind (.query _) fun _ => .modifySelf _

/-- To turn to a page is composed. -/
lemma composed_turnTo (offset : Nat) : Composed (turnTo offset) := by
  refine .bind .getSelf fun set => ?_
  dsimp only
  split
  · exact composed_loadPage _
  · exact .pure ()

/-- To look up a record is composed. -/
lemma composed_at? (offset : Nat) : Composed (at? offset) := by
  refine .bind composed_count fun total => ?_
  split
  · exact .pure none
  · refine .bind (composed_turnTo offset) fun _ => .bind .getSelf fun set => ?_
    split
    · exact .pure none
    · exact .bind (.modifySelf _) fun _ => .pure _

/-- Do an operation on a set, where a walk raises the error that it comes to. -/
def Operation.raised : Operation → Access (Focus RecordSet) Unit
  | next walk => do
    match (← walk.next?).1 with
    | some (.error e) => throw e
    | _ => return
  | operation => operation.run

/-- An operation on a set ends as the one does that raises the error of a walk. -/
lemma raises_operation (operation : RecordSetOf.Operation) :
    Raises operation.run operation.raised := by
  cases operation with
  | next walk =>
    intro s r s' hrun
    obtain ⟨e, rfl, hnext⟩ | ⟨⟨item, walk'⟩, s₁, hnext, hrest⟩ := runs_bind.1 hrun
    · exact ⟨.error e, runs_ignored hnext, .inl rfl⟩
    obtain ⟨hr, rfl⟩ : (r = .ok () ∨ ∃ e, r = .error e) ∧ s' = s₁ := by
      match item, hrest with
      | none, hrest => exact ⟨.inl (runs_pure.1 hrest).1, (runs_pure.1 hrest).2⟩
      | some (.ok record), hrest => exact ⟨.inl (runs_pure.1 hrest).1, (runs_pure.1 hrest).2⟩
      | some (.error e), hrest => exact ⟨.inr ⟨e, (runs_throw.1 hrest).1⟩, (runs_throw.1 hrest).2⟩
    exact ⟨.ok (), runs_ignored hnext, hr.imp Eq.symm fun h => ⟨rfl, h⟩⟩
  | _ => exact .refl _

/-- A step of a walk that raises its error is composed. -/
lemma composed_next (walk : Walk) : Composed (Operation.next walk).raised := by
  rw [Operation.raised, Walk.next?]
  split
  · exact .pure ()
  · rw [bind_assoc, attempt_bind fun e => rfl]
    refine .bind (composed_at? _) fun found => ?_
    cases found with
    | none => exact .pure ()
    | some record => exact .pure ()

/-- The rows of a walk are those of the records that are looked up one after another. -/
lemma composed_walk {walk : Walk} (h : walk.failed = false) (limit : Nat) :
    Composed (walk.visit itemRow limit) := by
  induction limit generalizing walk with
  | zero => exact .pure []
  | succ limit ih =>
    rw [Walk.visit, Walk.next?, h, if_neg (by decide), bind_assoc, attempt_bind fun e => rfl]
    refine .bind (composed_at? _) fun found => ?_
    cases found with
    | none => exact .pure []
    | some record =>
      simp only [pure_bind]
      refine .bind (.on record (Record.composed_hydrated Record.effectiveRow)) fun row => ?_
      exact .bind (ih rfl) fun rows => .pure _

/-- How many rows are wanted of those counted. -/
def bounded (limit : Option Nat) (total : Nat) : Nat :=
  match limit with
  | some n => min n total
  | none => total

/-- The rows that are wanted are counted, and then taken by a walk of so many items at most. -/
lemma takeRows_eq {limit : Option Nat} (h : limit ≠ some 0) :
    takeRows limit = count >>= fun total => Walk.start.visit itemRow (bounded limit total) := by
  rw [takeRows, RecordSetOf.visit, if_neg h, attempt_bind fun e => rfl]
  cases limit <;> rfl

/-- To take rows is composed. -/
lemma composed_takeRows (limit : Option Nat) : Composed (takeRows limit) := by
  by_cases hlimit : limit = some 0
  · rw [takeRows, RecordSetOf.visit, if_pos hlimit]
    exact .pure []
  · rw [takeRows_eq hlimit]
    exact .bind composed_count fun total => composed_walk rfl _

/-- The operations on a set but for the walks are composed, with their answers. -/
lemma composed_answer {operation : RecordSetOf.Operation} (h : ∀ walk, operation ≠ .next walk) :
    Composed operation.answer := by
  unfold Operation.answer
  cases operation with
  | removeFilter key => exact .bind .getSelf fun _ => .bind (.modifySelf _) fun _ => .pure _
  | count => exact composed_count
  | «at» offset => exact composed_at? offset
  | next walk => exact absurd rfl (h walk)
  | rows limit => exact composed_takeRows limit
  | text indent => exact .bind (composed_takeRows none) fun _ => .bind .getSelf fun _ => .pure _
  | _ => exact .modifySelf _

/-- The operations on a set are composed where the error of a walk is raised. -/
lemma composed_operation (operation : RecordSetOf.Operation) : Composed operation.raised := by
  by_cases h : ∃ walk, operation = .next walk
  · obtain ⟨walk, rfl⟩ := h
    exact composed_next walk
  · have hraised : operation.raised = operation.run := by
      cases operation <;> first | rfl | exact absurd ⟨_, rfl⟩ h
    rw [hraised, Operation.run_eq]
    exact (composed_answer (not_exists.1 h)).ignored

end RecordSetOf

namespace Entity

/-- A composed operation on a record is so on the entity. -/
lemma composed_onRecord (record : Record) {op : Access (Focus Record) α} (h : Composed op) :
    Composed (onRecord record op) :=
  .onPart record (fun r (_ : Entity) => Relation.one r) h

/-- A composed operation on a set is so on the entity. -/
lemma composed_onSet (set : RecordSet) {op : Access (Focus RecordSet) α} (h : Composed op) :
    Composed (onSet set op) :=
  .onPart set (fun s (_ : Entity) => Relation.many s) h

/-- Do an operation on an object, where a walk raises the error that it comes to. -/
def Operation.raised (operation : Operation) : Access (Focus Entity) Unit := do
  match operation, (← Focus.getSelf) with
  | record op, .one r => onRecord r op.run
  | set op, .many s => onSet s op.raised
  | _, _ => return

/-- An operation on an object ends as the one does that raises the error of a walk. -/
lemma raises_operation (operation : Entity.Operation) : Raises operation.run operation.raised := by
  refine .bind _ fun entity => ?_
  cases operation with
  | record op => cases entity <;> exact .refl _
  | set op =>
    cases entity with
    | one record => exact .refl _
    | many set => exact (RecordSetOf.raises_operation op).zoom

/-- The operations on an object are composed where the error of a walk is raised. -/
lemma composed_operation (operation : Entity.Operation) : Composed operation.raised := by
  refine .bind .getSelf fun entity => ?_
  split
  · exact composed_onRecord _ (Record.composed_operation _)
  · exact composed_onSet _ (RecordSetOf.composed_operation _)
  · exact .pure ()

/-- To find the object that a step leads to is composed. -/
lemma composed_find? (step : Step) : Composed (find? step) := by
  refine .bind .getSelf fun entity => ?_
  split
  · exact .bind (composed_onRecord _ (Record.composed_one? _)) fun _ => .pure _
  · exact .bind (composed_onRecord _ (Record.composed_many? _)) fun _ => .pure _
  · exact .bind (composed_onSet _ (RecordSetOf.composed_at? _)) fun _ => .pure _
  · exact .pure none

/-- At the end of a path an operation ends as the raising one does there. -/
lemma raises_follow {op op' : Access (Focus Entity) α} (h : Raises op op') (path : List Step) :
    Raises (follow op path) (follow op' path) := by
  induction path with
  | nil => exact h.map Except.ok
  | cons step path ih =>
    refine .bind _ fun found => ?_
    cases found with
    | none => exact .refl _
    | some inner => exact ih.zoom

/-- A composed operation is so at the end of a path. -/
lemma composed_follow {op : Access (Focus Entity) α} (h : Composed op) (path : List Step) :
    Composed (follow op path) := by
  induction path with
  | nil => exact .bind h fun _ => .pure _
  | cons step path ih =>
    refine .bind (composed_find? step) fun found => ?_
    cases found with
    | none => exact .pure _
    | some inner => exact .onPart inner (put step) ih

/-- Make use of an object, where a walk raises the error that it comes to. -/
def Use.raised : Use → Access (Focus Entity) Unit
  | here path operation => (follow operation.raised path).ignored
  | elsewhere other path operation =>
    Focus.onDatabase (Focus.on other (follow operation.raised path).ignored)
  | database operation => Focus.onDatabase operation.run

/-- A use that raises the error of a walk ends as the use does otherwise. -/
theorem raises_use (use : Use) : Raises use.run use.raised := by
  have hfollow (path : List Step) (operation : Operation) :
      Raises (reach path operation) (follow operation.raised path).ignored :=
    (raises_follow (raises_operation operation) path).map fun _ => ()
  cases use with
  | here path operation => exact hfollow path operation
  | elsewhere other path operation => exact (hfollow path operation).zoom.zoom
  | database operation => exact .refl _

/-- Every use of an object is put together from operations on the database. -/
lemma composed_use (use : Use) : Composed use.raised := by
  cases use with
  | here path operation => exact (composed_follow (composed_operation operation) path).ignored
  | elsewhere other path operation =>
    exact .on other (composed_follow (composed_operation operation) path).ignored
  | database operation => exact Database.composed_operation operation

end Entity

end Objects
end RecordAccess
