import Mathlib.Tactic.Common
import RecordAccess.Proofs.Database.Statements
import RecordAccess.Proofs.Use.Basic

/-!
# What operations do with a record

An operation on a record fetches the row if that is due, and then does with the record what depends
on the record alone: `Fetches op act` says so for the operation `op` and the function `act`, which
gives the result and the record afterwards. A failure to fetch is the outcome of the operation and
leaves the record as it was (`Hydrating`). The operations that ask for the columns of the table do so
before (`Doing`, with `doing_of_runs` for all operations).

A record that was made and then used is reached by a history (`History`): operations one after
another, each over a database in any state. So between two of them anything may have been done with
the database, and its driver may answer anything.
-/

namespace RecordAccess
open Access Database

namespace Record

/-- The statement that fetches the row of a record. -/
def rowStatement (r : Record) (b : Backend) : String := recordSql b r.table r.fetchId

/-- The record without the staged changes and the related objects kept. -/
def stored (r : Record) : Record := { r with overlay := .empty, relations := [] }

/-- Records with the same row both wait for it, or neither does. -/
lemma isLazy_of_stored {r r' : Record} (h : r'.stored = r.stored) : r'.isLazy = r.isLazy := by
  have hlazy := congrArg isLazy h
  exact hlazy

/-- Records with the same row have the same columns with the same values in it. -/
lemma persisted_of_stored {r r' : Record} (h : r'.stored = r.stored) :
    r'.persisted = r.persisted := by
  have hpersisted := congrArg Record.persisted h
  exact hpersisted

/-- Records with the same row are both found, or neither is. -/
lemma found_of_stored {r r' : Record} (h : r'.stored = r.stored) : r'.found = r.found := by
  have hfound := congrArg Record.found h
  exact hfound

/-- A record that got its row does not wait for it any more. -/
lemma isLazy_received (r : Record) (rows : List Row) : (r.received rows).isLazy = false := by
  cases rows with
  | nil => simp [received, isLazy]
  | cons row rows => simp [received, isLazy]

/-- The row need not be fetched, or is asked for, or cannot be had. -/
inductive Hydrating (s : Focus Record) : Except Error Unit → Focus Record → Prop where
  | known :
    s.self.isLazy = false →
    Hydrating s (.ok ()) s
  | received {rows db} :
    s.self.isLazy = true →
    Asking s.database s.self.rowStatement (.ok rows) db →
    Hydrating s (.ok ()) ⟨s.self.received rows, db⟩
  | failed {e db} :
    s.self.isLazy = true →
    Asking s.database s.self.rowStatement (.error e) db →
    Hydrating s (.error e) ⟨s.self, db⟩

/-- A record that does not wait for its row is left as it is. -/
lemma runs_hydrate {s s' : Focus Record} {r : Except Error Unit} (hlazy : s.self.isLazy = false)
    (h : Runs hydrate s r s') : r = .ok () ∧ s' = s := by
  rw [hydrate, Focus.runs_getSelf_bind, hlazy] at h
  exact runs_pure.1 h

/-- To fetch the row ends in one of the ways of `Hydrating`. -/
lemma hydrating_of_runs {s s' : Focus Record} {r : Except Error Unit} (h : Runs hydrate s r s') :
    Hydrating s r s' := by
  cases hlazy : s.self.isLazy with
  | false =>
    obtain ⟨rfl, rfl⟩ := runs_hydrate hlazy h
    exact .known hlazy
  | true =>
    rw [hydrate, Focus.runs_getSelf_bind, hlazy, if_pos rfl] at h
    obtain ⟨e, db, rfl, hbackend, rfl⟩ | ⟨b, db, hbackend, h⟩ := Focus.runs_onDatabase_bind.1 h
    · obtain ⟨o, ho, hopening⟩ := runs_backend hbackend
      cases o with
      | ok handles => cases ho
      | error e' =>
        cases ho
        exact .failed hlazy (.unopened hopening)
    have hstatement : recordSql b s.self.table s.self.fetchId = s.self.rowStatement b := rfl
    rw [hstatement] at h
    obtain ⟨e, db', rfl, hquery, rfl⟩ | ⟨rows, db', hquery, h⟩ := Focus.runs_onDatabase_bind.1 h
    · exact .failed hlazy (asking_of_backend hbackend hquery)
    · obtain ⟨rfl, rfl⟩ := Focus.runs_modifySelf.1 h
      exact .received hlazy (asking_of_backend hbackend hquery)

/-- After the row is fetched there is no more need to. -/
lemma Hydrating.isLazy_eq {s s' : Focus Record} (h : Hydrating s (.ok ()) s') :
    s'.self.isLazy = false := by
  cases h with
  | known hlazy => exact hlazy
  | received _ _ => exact isLazy_received _ _

/-- A failure to fetch the row leaves the record as it was. -/
lemma Hydrating.self_eq {s s' : Focus Record} {e : Error} (h : Hydrating s (.error e) s') :
    s'.self = s.self := by
  cases h with
  | failed _ _ => rfl

section Acting
variable {α β : Type}

/-- On a fetched record an operation gives a result and a record that depend on the record alone. The
stored row stays. -/
structure Acts (op : Access (Focus Record) α) (act : Record → α × Record) : Prop where
  stored : ∀ r, (act r).2.stored = r.stored
  runs : ∀ s r s', s.self.isLazy = false → Runs op s r s' →
    r = .ok (act s.self).1 ∧ s' = ⟨(act s.self).2, s.database⟩

/-- To return a value acts on no record. -/
lemma acts_pure (a : α) : Acts (pure a) fun r => (a, r) := by
  refine ⟨fun _ => rfl, ?_⟩
  intro s r s' _ h
  exact runs_pure.1 h

/-- To ask for the record gives it. -/
lemma acts_getSelf : Acts Focus.getSelf fun r => (r, r) := by
  refine ⟨fun _ => rfl, ?_⟩
  intro s r s' _ h
  exact Focus.runs_getSelf.1 h

/-- To modify the record acts on it, if its row stays. -/
lemma acts_modifySelf (change : Record → Record) (h : ∀ r, (change r).stored = r.stored) :
    Acts (Focus.modifySelf change) fun r => ((), change r) := by
  refine ⟨h, ?_⟩
  intro s r s' _ h
  exact Focus.runs_modifySelf.1 h

/-- Two operations that act on the record do so one after the other. -/
lemma acts_bind {op : Access (Focus Record) α} {f : α → Access (Focus Record) β}
    {act : Record → α × Record} {g : α → Record → β × Record} (hop : Acts op act)
    (hf : ∀ a, Acts (f a) (g a)) : Acts (op >>= f) fun r => g (act r).1 (act r).2 := by
  refine ⟨fun r => ((hf _).stored _).trans (hop.stored r), ?_⟩
  intro s r s' hlazy h
  obtain ⟨e, -, h⟩ | ⟨a, s₁, h₁, h₂⟩ := runs_bind.1 h
  · cases (hop.runs s _ s' hlazy h).1
  · obtain ⟨ha, rfl⟩ := hop.runs s _ s₁ hlazy h₁
    cases ha
    have hlazy₁ : (act s.self).2.isLazy = false := (isLazy_of_stored (hop.stored s.self)).trans hlazy
    exact (hf _).runs _ r s' hlazy₁ h₂

/-- The result and the record after an operation that fetches the row first. -/
inductive Acting (act : Record → α × Record) (s : Focus Record) :
    Except Error α → Focus Record → Prop where
  | failed {e s₁} :
    Runs hydrate s (.error e) s₁ →
    Acting act s (.error e) s₁
  | done {s₁} :
    Runs hydrate s (.ok ()) s₁ →
    Acting act s (.ok (act s₁.self).1) ⟨(act s₁.self).2, s₁.database⟩

/-- An operation fetches the row if that is due, and then acts on the fetched record. -/
structure Fetches (op : Access (Focus Record) α) (act : Record → α × Record) : Prop where
  stored : ∀ r, (act r).2.stored = r.stored
  runs : ∀ s r s', Runs op s r s' → Acting act s r s'

/-- To fetch the row and do nothing more leaves the fetched record. -/
lemma fetches_hydrate : Fetches hydrate fun r => ((), r) := by
  refine ⟨fun _ => rfl, ?_⟩
  intro s r s' h
  cases r with
  | ok _ => exact .done h
  | error e => exact .failed h

/-- What comes after the row is fetched is done on the fetched record. -/
lemma fetches_bind {op : Access (Focus Record) α} {f : α → Access (Focus Record) β}
    {act : Record → α × Record} {g : α → Record → β × Record} (hop : Fetches op act)
    (hf : ∀ a, Acts (f a) (g a)) : Fetches (op >>= f) fun r => g (act r).1 (act r).2 := by
  refine ⟨fun r => ((hf _).stored _).trans (hop.stored r), ?_⟩
  intro s r s' h
  obtain ⟨e, rfl, h₁⟩ | ⟨a, s₁, h₁, h₂⟩ := runs_bind.1 h
  · cases hop.runs s _ s' h₁ with
    | failed hhydrate => exact .failed hhydrate
  · cases hop.runs s _ s₁ h₁ with
    | @done s₂ hhydrate =>
      have hlazy : (act s₂.self).2.isLazy = false :=
        (isLazy_of_stored (hop.stored s₂.self)).trans (hydrating_of_runs hhydrate).isLazy_eq
      obtain ⟨rfl, rfl⟩ := (hf _).runs _ r s' hlazy h₂
      exact .done hhydrate

/-- An operation that fetches first acts on a record that is fetched already. -/
lemma Fetches.acts {op : Access (Focus Record) α} {act : Record → α × Record}
    (h : Fetches op act) : Acts op act := by
  refine ⟨h.stored, ?_⟩
  intro s r s' hlazy hrun
  cases h.runs s r s' hrun with
  | failed hhydrate => cases (runs_hydrate hlazy hhydrate).1
  | done hhydrate =>
    obtain ⟨-, rfl⟩ := runs_hydrate hlazy hhydrate
    exact ⟨rfl, rfl⟩

/-- An operation succeeds once the row is fetched. -/
lemma Fetches.runs_of_hydrate {op : Access (Focus Record) α} {act : Record → α × Record}
    {s s₁ : Focus Record} (h : Fetches op act) (hhydrate : Runs hydrate s (.ok ()) s₁) :
    Runs op s (.ok (act s₁.self).1) ⟨(act s₁.self).2, s₁.database⟩ := by
  obtain ⟨r, s', hrun⟩ := exists_runs op s
  cases h.runs s r s' hrun with
  | failed hfailed => cases (hfailed.unique hhydrate).1
  | done hdone =>
    obtain ⟨-, rfl⟩ := hdone.unique hhydrate
    exact hrun

end Acting

/-- What a field of a fetched record is, null if the record lacks it, and the record afterwards. -/
def look (r : Record) (field : String) : Field × Record :=
  if r.hasField field then r.read field else (.value .null, r)

/-- Whether a value is staged, and the record afterwards. -/
def write (r : Record) (field : String) (value : Value) : Bool × Record :=
  if r.hasField field then
    if differs (r.look field).1 value then (true, (r.look field).2.stage field value)
    else (false, (r.look field).2)
  else (false, r)

/-- The record with a field cleared that it has. -/
def clear (r : Record) (field : String) : Record :=
  if r.hasField field then r.stage field (cleared field) else r

/-- To read a field leaves the row. -/
lemma stored_read (r : Record) (field : String) : (r.read field).2.stored = r.stored := by
  unfold read
  cases r.current? field with
  | some value => rfl
  | none =>
    cases Entries.get? field r.relations with
    | some entity => rfl
    | none => cases r.resolve? field <;> rfl

/-- To look at a field leaves the row. -/
lemma stored_look (r : Record) (field : String) : (r.look field).2.stored = r.stored := by
  unfold look
  split
  · exact stored_read r field
  · rfl

/-- To look at a field leaves the overlay. -/
lemma overlay_look (r : Record) (field : String) : (r.look field).2.overlay = r.overlay := by
  unfold look read
  split
  · cases r.current? field with
    | some v => rfl
    | none =>
      cases Entries.get? field r.relations with
      | some entity => rfl
      | none => cases r.resolve? field <;> rfl
  · rfl

/-- To look at a field leaves the current values of all fields. -/
lemma current?_look (r : Record) (field name : String) :
    (r.look field).2.current? name = r.current? name := by
  rw [current?, current?, overlay_look, persisted_of_stored (stored_look r field)]

/-- A staged value is the current one of its field, and leaves those of the others. -/
lemma current?_stage (r : Record) (field : String) (v : Value) (name : String) :
    (r.stage field v).current? name = if name = field then some v else r.current? name := by
  by_cases hname : name = field <;> simp [current?, stage, hname]

/-- To fetch the row and look at the record leaves the fetched record. -/
lemma fetches_look {α : Type} (f : Record → α) :
    Fetches (do hydrate; return f (← Focus.getSelf)) fun r => (f r, r) :=
  fetches_bind fetches_hydrate fun _ => acts_bind acts_getSelf fun r => acts_pure (f r)

/-- Whether a field exists is asked of the fetched record. -/
lemma fetches_exists? (field : String) :
    Fetches (exists? field) fun r => (r.hasField field, r) :=
  fetches_look fun r => r.hasField field

/-- A field is looked at in the fetched record. -/
lemma fetches_get (field : String) : Fetches (Record.get field) fun r => r.look field := by
  refine fetches_bind (g := fun found r => if found then r.read field else (.value .null, r))
    (fetches_exists? field) fun found => ?_
  cases found with
  | false => exact acts_pure _
  | true =>
    refine ⟨fun r => stored_read r field, ?_⟩
    intro s r s' _ h
    exact runs_pure.1 (Focus.runs_modifySelf_bind.1 (Focus.runs_getSelf_bind.1 h))

/-- To look at a field and return what follows from it is to look at the field. -/
lemma fetches_get_bind {α : Type} {field : String} {f : Field → Access (Focus Record) α}
    {result : Field → α} (hf : ∀ found, f found = pure (result found)) :
    Fetches (Record.get field >>= f) fun r => (result (r.look field).1, (r.look field).2) := by
  refine fetches_bind (g := fun found r => (result found, r)) (fetches_get field) fun found => ?_
  rw [hf]
  exact acts_pure _

/-- The value of a field is that of what it is found to be. -/
lemma fetches_value (field : String) :
    Fetches (value field) fun r => ((r.look field).1.toValue, (r.look field).2) :=
  fetches_get_bind fun _ => rfl

/-- The record of a field that is one. -/
def Field.record? : Field → Option Record
  | .related (.one record) => some record
  | _ => none

/-- The set of a field that is one. -/
def Field.set? : Field → Option RecordSet
  | .related (.many set) => some set
  | _ => none

/-- The record of a field is what it is found to be, if that is a record. -/
lemma fetches_one? (field : String) :
    Fetches (one? field) fun r => (Field.record? (r.look field).1, (r.look field).2) := by
  apply fetches_get_bind
  intro found
  cases found with
  | value v => rfl
  | related entity => cases entity <;> rfl

/-- The set of a field is what it is found to be, if that is a set. -/
lemma fetches_many? (field : String) :
    Fetches (many? field) fun r => (Field.set? (r.look field).1, (r.look field).2) := by
  apply fetches_get_bind
  intro found
  cases found with
  | value v => rfl
  | related entity => cases entity <;> rfl

/-- A value is written to the fetched record. -/
lemma fetches_set (field : String) (v : Value) :
    Fetches (Record.set field v) fun r => r.write field v := by
  refine fetches_bind (g := fun found r =>
    if found then
      if differs (r.look field).1 v then (true, (r.look field).2.stage field v)
      else (false, (r.look field).2)
    else (false, r)) (fetches_exists? field) fun found => ?_
  cases found with
  | false => exact acts_pure _
  | true =>
    refine acts_bind (g := fun current r =>
      if differs current v then (true, r.stage field v) else (false, r))
      (fetches_get field).acts fun current => ?_
    cases hdiffers : differs current v with
    | false => simpa [hdiffers] using acts_pure false
    | true =>
      have hstage := acts_bind (acts_modifySelf (fun r => r.stage field v) fun _ => rfl)
        fun _ => acts_pure true
      simpa [hdiffers] using hstage

/-- A field is cleared in the fetched record. -/
lemma fetches_unset (field : String) :
    Fetches (Record.unset field) fun r => ((), r.clear field) := by
  refine fetches_bind (g := fun found r =>
    ((), if found then r.stage field (cleared field) else r)) (fetches_exists? field) fun found => ?_
  cases found with
  | false => exact acts_pure ()
  | true => exact acts_modifySelf (fun r => r.stage field (cleared field)) fun _ => rfl

/-- What becomes of a fetched record by an operation. -/
def Operation.effect : Operation → Record → Record
  | get field => fun r => (r.look field).2
  | value field => fun r => (r.look field).2
  | one field => fun r => (r.look field).2
  | many field => fun r => (r.look field).2
  | typed field => fun r => (r.look field).2
  | set field v => fun r => (r.write field v).2
  | unset field => fun r => r.clear field
  | isFound => fun r => r
  | has _ => fun r => r
  | count => fun r => r
  | row => fun r => r
  | text _ => fun r => r
  | schema => fun r => r
  | column _ => fun r => r

/-- Whether an operation needs the row whatever the columns of the table are. -/
def Operation.needsRow : Operation → Bool
  | schema => false
  | column _ => false
  | typed _ => false
  | _ => true

/-- The field that an operation changes. -/
def Operation.changed? : Operation → Option String
  | set field _ => some field
  | unset field => some field
  | _ => none

/-- What an operation does: it asks at most for the columns of the table, or acts on the record once
the row is fetched. -/
inductive Doing (op : Operation) (s : Focus Record) :
    Except Error Unit → Focus Record → Prop where
  | described {r db} :
    op.needsRow = false →
    Describing s.database db →
    Doing op s r ⟨s.self, db⟩
  | acted {r db s'} :
    (op.needsRow = true → db = s.database) →
    Describing s.database db →
    Acting (fun r => ((), op.effect r)) ⟨s.self, db⟩ r s' →
    Doing op s r s'

/-- An operation fetches the row also where its result is ignored. -/
lemma fetches_ignored {α : Type} {op : Access (Focus Record) α} {act : Record → α × Record}
    (h : Fetches op act) : Fetches op.ignored fun r => ((), (act r).2) :=
  fetches_bind h fun _ => acts_pure ()

/-- An operation that needs the row fetches it, and then has its effect. -/
lemma fetches_operation {op : Operation} (h : op.needsRow = true) :
    Fetches op.run fun r => ((), op.effect r) := by
  cases op with
  | isFound => exact fetches_ignored (fetches_look Record.found)
  | has field => exact fetches_ignored (fetches_exists? field)
  | get field => exact fetches_ignored (fetches_get field)
  | value field => exact fetches_ignored (fetches_value field)
  | one field => exact fetches_ignored (fetches_one? field)
  | many field => exact fetches_ignored (fetches_many? field)
  | set field v => exact fetches_ignored (fetches_set field v)
  | unset field => exact fetches_unset field
  | count => exact fetches_ignored (fetches_look fun r => r.persisted.size)
  | row => exact fetches_ignored (fetches_look effectiveRow)
  | text indent =>
    exact fetches_ignored (fetches_bind (fetches_look effectiveRow) fun _ => acts_pure _)
  | schema => cases h
  | column field => cases h
  | typed field => cases h

/-- To ask for the schema describes columns and leaves the record. -/
lemma describing_of_schema {s s' : Focus Record} {r : Except Error TableSchema}
    (h : Runs schema s r s') : ∃ db, Describing s.database db ∧ s' = ⟨s.self, db⟩ := by
  rw [schema, Focus.runs_getSelf_bind] at h
  obtain ⟨db, hdb, rfl⟩ := Focus.runs_onDatabase.1 h
  exact ⟨db, describing_of_columnsFor hdb, rfl⟩

/-- To ask for a column describes columns and leaves the record. -/
lemma describing_of_column? {s s' : Focus Record} {field : String}
    {r : Except Error (Option Column)} (h : Runs (column? field) s r s') :
    ∃ db, Describing s.database db ∧ s' = ⟨s.self, db⟩ := by
  obtain ⟨o, -, hschema⟩ := runs_map.1 h
  exact describing_of_schema hschema

/-- To ask for a typed value describes columns, and looks at the field if there is such a column. -/
lemma doing_of_typed? {s s' : Focus Record} {field : String}
    {r : Except Error (Option (Column × Value))} (h : Runs (typed? field) s r s') :
    Doing (.typed field) s (r.map fun _ => ()) s' := by
  obtain ⟨e, rfl, hcolumn⟩ | ⟨column, s₁, hcolumn, hrest⟩ := runs_bind.1 h
  · obtain ⟨db, hdb, rfl⟩ := describing_of_column? hcolumn
    exact .described rfl hdb
  obtain ⟨db, hdb, rfl⟩ := describing_of_column? hcolumn
  cases column with
  | none =>
    obtain ⟨rfl, rfl⟩ := runs_pure.1 hrest
    exact .described rfl hdb
  | some column =>
    obtain ⟨o, rfl, hvalue⟩ := runs_map.1 hrest
    cases (fetches_value field).runs _ o s' hvalue with
    | failed hhydrate => exact .acted nofun hdb (.failed hhydrate)
    | done hhydrate => exact .acted nofun hdb (.done hhydrate)

/-- What an operation does is told by its effect. -/
lemma doing_of_runs {op : Operation} {s s' : Focus Record} {r : Except Error Unit}
    (h : Runs op.run s r s') : Doing op s r s' := by
  cases hneeds : op.needsRow with
  | true => exact .acted (fun _ => rfl) (.refl _) ((fetches_operation hneeds).runs s r s' h)
  | false =>
    cases op with
    | schema =>
      obtain ⟨o, -, hschema⟩ := runs_of_ignored h
      obtain ⟨db, hdb, rfl⟩ := describing_of_schema hschema
      exact .described rfl hdb
    | column field =>
      obtain ⟨o, -, hcolumn⟩ := runs_of_ignored h
      obtain ⟨db, hdb, rfl⟩ := describing_of_column? hcolumn
      exact .described rfl hdb
    | typed field =>
      obtain ⟨o, rfl, htyped⟩ := runs_of_ignored h
      exact doing_of_typed? htyped
    | _ => cases hneeds

/-- No operation on a fetched record changes its row. -/
lemma stored_effect (op : Operation) (r : Record) : (op.effect r).stored = r.stored := by
  cases op with
  | get field => exact stored_look r field
  | value field => exact stored_look r field
  | one field => exact stored_look r field
  | many field => exact stored_look r field
  | typed field => exact stored_look r field
  | set field v => exact (fetches_set field v).stored r
  | unset field => exact (fetches_unset field).stored r
  | _ => rfl

/-- What a record is made of: an identity, or a row. -/
inductive Origin where
  | id (id : Int64)
  | row (row : Row)

namespace Origin

/-- The record made in a table. -/
def make (table : String) : Origin → Record
  | id n => ofId table n
  | row values => ofRow table values

/-- The row that is known from the start. -/
def known : Origin → Row
  | id n => OrderedMap.empty.insert idName (.int n)
  | row values => values

/-- A record of an identity is that of the row with nothing else. -/
lemma make_eq (table : String) (origin : Origin) : origin.make table = ofRow table origin.known := by
  cases origin with
  | id n => rfl
  | row values => rfl

end Origin

/-- An operation on a record, with its outcome and the database before and after it. -/
structure Event where
  operation : Operation
  before : Database
  outcome : Except Error Unit
  after : Database

/-- A record after operations, the latest first, that each found a database in some state. -/
inductive History (r₀ : Record) : List Event → Record → Prop where
  | start : History r₀ [] r₀
  | step {events r op db outcome r' db'} :
    History r₀ events r →
    Runs (Operation.run op) ⟨r, db⟩ outcome ⟨r', db'⟩ →
    History r₀ (⟨op, db, outcome, db'⟩ :: events) r'

/-- The record and its database after some operations, whether they failed or not. -/
def afterOperations (operations : List Operation) (s : Focus Record) : Focus Record :=
  operations.foldl (fun s op => ((Operation.run op).outcome s).2) s

/-- Operations over one database are a history. -/
lemma exists_history_afterOperations {r₀ : Record} {events : List Event} {s : Focus Record}
    (h : History r₀ events s.self) (operations : List Operation) :
    ∃ more, History r₀ (more ++ events) (afterOperations operations s).self := by
  induction operations generalizing s events with
  | nil => exact ⟨[], h⟩
  | cons op operations ih =>
    obtain ⟨r, s', hrun⟩ := exists_runs op.run s
    have hnext : (op.run.outcome s).2 = s' := congrArg Prod.snd hrun
    obtain ⟨more, hmore⟩ := ih (h.step hrun)
    refine ⟨more ++ [⟨op, s.database, r, s'.database⟩], ?_⟩
    rw [List.append_assoc, afterOperations, List.foldl_cons, hnext]
    exact hmore

end Record
end RecordAccess
