import Mathlib.Tactic.Common
import RecordAccess.Database.Catalog
import RecordAccess.Proofs.Database.Connection

/-!
# What a database remembers of a description

The table list and the schema of a table are had in one way (`Memo`). What the context knows is given;
else what the cache keeps is learned; else the driver is asked (`Fetching`), and what it replies is kept
in the cache and learned. So there are four ways to consult a memo (`Consulting`), and
`consulting_of_knownTables` and `consulting_of_columnsFor` say that both kinds of description are had in
one of them.

What is known stays known and is given without a call (`Consulting.of_known`). As it is learned with the
first reply of the driver, the driver replies at most once (`Consulting.repliedOnce`). A schema that is
neither known nor kept is built from the report of the driver (`built_of_consulting`).
-/

namespace RecordAccess

/-- Whether a call succeeds after the calls before. -/
def Driver.succeeds (driver : Driver) (earlier : List Call) : Call → Bool
  | .query sql => (driver.queryRows earlier sql).isOk
  | .tables => (driver.listTables earlier).isOk
  | .columns table => (driver.nativeColumns earlier table).isOk

/-- How often a call has succeeded. -/
def Driver.successes (driver : Driver) (call : Call) : List Call → Nat
  | [] => 0
  | c :: earlier =>
    (if c = call ∧ driver.succeeds earlier c = true then 1 else 0) + driver.successes call earlier

/-- A cache that remembers has what was put into it, in canonical form. -/
lemma Cache.get?_set (entries : OrderedMap Json) (key : String) (value : Json) :
    ((memory entries).set key value).get? key = some value.canonical := by
  simp [Cache.set, Cache.get?]

namespace Database
open Access

/-- How often a call has succeeded on the connection. -/
def successes (db : Database) (call : Call) : Nat :=
  match db.handles with
  | some (.ok handles) => handles.read.driver.successes call handles.read.history
  | _ => 0

/-- Something that describes a database: how the context and the cache remember it, and how the driver
is asked for it. -/
structure Memo (α : Type) where
  /-- What the context knows. -/
  known : Database → Option α
  learn : α → Database → Database
  /-- Where the cache keeps it. -/
  key : String
  encode : α → Json
  decode? : Json → Option α
  call : Call
  reply : Handles → Except String α
  /-- The statements that are noted with the call. -/
  notes : Backend → List String
  fault : Backend → String → Error
  known_learn : ∀ a db, known (learn a db) = some a
  /-- To learn changes only what the context knows. -/
  learn_eq : ∀ a db, ∃ tables schemas, learn a db = { db with tables, schemas }
  learn_connection : ∀ a (db : Database) handles attempts,
    learn a { db with handles, attempts } = { learn a db with handles, attempts }
  known_congr : ∀ db db' : Database,
    db'.tables = db.tables → db'.schemas = db.schemas → known db' = known db
  isOk_reply : ∀ handles : Handles,
    (reply handles).isOk = handles.read.driver.succeeds handles.read.history call
  isFatal_fault : ∀ b cause, (fault b cause).isFatal = false

/-- A reply is a success if it is one after a map. -/
lemma isOk_map {α β : Type} (r : Except String α) (f : α → β) : (r.map f).isOk = r.isOk := by
  cases r <;> rfl

/-- The table list, in lowercase. -/
def tableMemo : Memo (List String) where
  known := Database.tables
  learn tables db := { db with tables := some tables }
  key := "tables"
  encode tables := .array (tables.map .string)
  decode? := tablesOfJson?
  call := .tables
  reply handles :=
    (handles.read.driver.listTables handles.read.history).map fun names => names.map lowercase
  notes b := [b.tableListQuery]
  fault b cause := .query b.tableListQuery cause
  known_learn _ _ := rfl
  learn_eq tables db := ⟨some tables, db.schemas, rfl⟩
  learn_connection _ _ _ _ := rfl
  known_congr _ _ htables _ := htables
  isOk_reply _ := isOk_map _ _
  isFatal_fault _ _ := rfl

/-- The schema of a table, by its name in lowercase. -/
def schemaMemo (table : String) : Memo TableSchema where
  known db := db.schemas.get? table
  learn schema db := { db with schemas := db.schemas.insert table schema }
  key := "schema:" ++ table
  encode := TableSchema.toJson
  decode? := TableSchema.ofJson?
  call := .columns table
  reply handles :=
    (handles.read.driver.nativeColumns handles.read.history table).map
      (TableSchema.ofNative handles.backend table)
  notes _ := []
  fault _ cause := .schema table cause
  known_learn _ _ := by simp
  learn_eq schema db := ⟨db.tables, db.schemas.insert table schema, rfl⟩
  learn_connection _ _ _ _ := rfl
  known_congr _ _ _ hschemas := by rw [hschemas]
  isOk_reply _ := isOk_map _ _
  isFatal_fault _ _ := rfl

namespace Memo
variable {α : Type} (m : Memo α)

/-- What the cache keeps, as far as it can be read. -/
def kept (db : Database) : Option α := (db.cache.get? m.key).bind m.decode?

/-- What is to be had without the driver. -/
def remembered? (db : Database) : Option α := (m.known db).or (m.kept db)

/-- The database after the driver was asked. -/
def asked (db : Database) (handles : Handles) : Database :=
  { db with
    log := m.notes handles.backend ++ db.log
    handles := some (.ok { handles with read := handles.read.called m.call }) }

/-- The driver cannot be asked, or refuses, or its reply is kept in the cache. -/
inductive Fetching (db : Database) : Except Error α → Database → Prop where
  | unopened {e db₁} :
    Opening db (.error e) db₁ →
    Fetching db (.error e) db₁
  | refused {handles db₁ cause} :
    Opening db (.ok handles) db₁ →
    m.reply handles = .error cause →
    Fetching db (.error (m.fault handles.backend cause)) (m.asked db₁ handles)
  | replied {handles db₁ a} :
    Opening db (.ok handles) db₁ →
    m.reply handles = .ok a →
    Fetching db (.ok a) { m.asked db₁ handles with cache := db₁.cache.set m.key (m.encode a) }

/-- What is known is given; else what is kept is learned, and else what is fetched. -/
inductive Consulting (db : Database) : Except Error α → Database → Prop where
  | known {a} :
    m.known db = some a →
    Consulting db (.ok a) db
  | kept {a} :
    m.known db = none →
    m.kept db = some a →
    Consulting db (.ok a) (m.learn a db)
  | fetched {a db₁} :
    m.known db = none →
    m.kept db = none →
    m.Fetching db (.ok a) db₁ →
    Consulting db (.ok a) (m.learn a db₁)
  | failed {e db₁} :
    m.known db = none →
    m.kept db = none →
    m.Fetching db (.error e) db₁ →
    Consulting db (.error e) db₁

/-- To consult a memo that is fetched by an operation. -/
def consult (fetch : Access Database α) : Access Database α := do
  let db ← get
  match m.known db with
  | some a => return a
  | none =>
    let a ← match m.kept db with
      | some a => pure a
      | none => fetch
    modify (m.learn a)
    return a

variable {m} {db db' : Database}

/-- A memo is consulted in one of four ways. -/
lemma consulting_of_runs {fetch : Access Database α} {r : Except Error α}
    (hfetch : ∀ o db₁, Runs fetch db o db₁ → m.Fetching db o db₁)
    (h : Runs (m.consult fetch) db r db') : m.Consulting db r db' := by
  have h := runs_get_bind.1 h
  cases hknown : m.known db with
  | some a =>
    simp only [hknown, runs_pure] at h
    obtain ⟨rfl, rfl⟩ := h
    exact .known hknown
  | none =>
    cases hkept : m.kept db with
    | some a =>
      simp only [hknown, hkept, pure_bind] at h
      rw [runs_modify_bind, runs_pure] at h
      obtain ⟨rfl, rfl⟩ := h
      exact .kept hknown hkept
    | none =>
      simp only [hknown, hkept] at h
      obtain ⟨e, rfl, hfetched⟩ | ⟨a, db₁, hfetched, hlearn⟩ := runs_bind.1 h
      · exact .failed hknown hkept (hfetch _ _ hfetched)
      · rw [runs_modify_bind, runs_pure] at hlearn
        obtain ⟨rfl, rfl⟩ := hlearn
        exact .fetched hknown hkept (hfetch _ _ hfetched)

end Memo

/-- To fetch the tables is to fetch what the table list is a memo of. -/
lemma fetching_of_fetchTables {db db' : Database} {r : Except Error (List String)}
    (h : Runs fetchTables db r db') : tableMemo.Fetching db r db' := by
  obtain ⟨e, rfl, hbackend⟩ | ⟨b, db₁, hbackend, h⟩ := runs_bind.1 h
  · obtain ⟨o, ho, hopening⟩ := runs_backend hbackend
    cases o with
    | ok handles => cases ho
    | error e' =>
      cases ho
      exact .unopened hopening
  obtain ⟨o, ho, hopening⟩ := runs_backend hbackend
  cases o with
  | error e => cases ho
  | ok handles =>
    cases ho
    have h := runs_modify_bind.1 h
    -- the statement is noted before the call, which leaves the handles as they are
    have hhandles : ({ db₁ with log := handles.backend.tableListQuery :: db₁.log } :
        Database).handles = some (.ok handles) := hopening.handles
    obtain ⟨e, -, hcall⟩ | ⟨answer, db₂, hcall, h⟩ := runs_bind.1 h
    · cases (runs_callReader_of_handles hhandles hcall).1
    obtain ⟨hanswer, rfl⟩ := runs_callReader_of_handles hhandles hcall
    cases hanswer
    cases hnames : handles.read.driver.listTables handles.read.history with
    | ok names =>
      simp only [Handle.tables, hnames] at h
      rw [runs_modify_bind, runs_pure] at h
      obtain ⟨rfl, rfl⟩ := h
      exact .replied hopening (by simp [tableMemo, hnames, Except.map])
    | error cause =>
      simp only [Handle.tables, hnames, runs_throw] at h
      obtain ⟨rfl, rfl⟩ := h
      exact .refused (m := tableMemo) hopening (by simp [tableMemo, hnames, Except.map])

/-- To fetch a schema is to fetch what the table's memo is of. -/
lemma fetching_of_fetchSchema {db db' : Database} {table : String} {r : Except Error TableSchema}
    (h : Runs (fetchSchema table) db r db') : (schemaMemo table).Fetching db r db' := by
  rw [fetchSchema, buildSchema, bind_assoc] at h
  obtain ⟨e, rfl, hbackend⟩ | ⟨b, db₁, hbackend, h⟩ := runs_bind.1 h
  · obtain ⟨o, ho, hopening⟩ := runs_backend hbackend
    cases o with
    | ok handles => cases ho
    | error e' =>
      cases ho
      exact .unopened hopening
  obtain ⟨o, ho, hopening⟩ := runs_backend hbackend
  cases o with
  | error e => cases ho
  | ok handles =>
    cases ho
    rw [bind_assoc] at h
    obtain ⟨e, -, hcall⟩ | ⟨answer, db₂, hcall, h⟩ := runs_bind.1 h
    · cases (runs_callReader_of_handles hopening.handles hcall).1
    obtain ⟨hanswer, rfl⟩ := runs_callReader_of_handles hopening.handles hcall
    cases hanswer
    cases hnative : handles.read.driver.nativeColumns handles.read.history table with
    | ok native =>
      simp only [Handle.columns, hnative, pure_bind] at h
      rw [runs_modify_bind, runs_pure] at h
      obtain ⟨rfl, rfl⟩ := h
      exact .replied hopening (by simp [schemaMemo, hnative, Except.map])
    | error cause =>
      simp only [Handle.columns, hnative] at h
      obtain ⟨rfl, rfl⟩ := runs_throw.1 h
      exact .refused (m := schemaMemo table) hopening (by simp [schemaMemo, hnative, Except.map])

/-- The known tables are those of the memo, consulted. -/
lemma knownTables_eq : knownTables = tableMemo.consult fetchTables := by
  refine bind_congr fun db => ?_
  have hknown : tableMemo.known db = db.tables := rfl
  have hkept : tableMemo.kept db = (db.cache.get? tablesKey).bind tablesOfJson? := rfl
  rw [hknown, hkept]
  cases db.tables with
  | some tables => rfl
  | none => cases (db.cache.get? tablesKey).bind tablesOfJson? <;> rfl

/-- The columns of a table are those of the memo for its lowercase name, consulted. -/
lemma columnsFor_eq (name : String) :
    columnsFor name = (schemaMemo (lowercase name)).consult (fetchSchema (lowercase name)) := by
  refine bind_congr fun db => ?_
  have hknown : (schemaMemo (lowercase name)).known db = db.schemas.get? (lowercase name) := rfl
  have hkept : (schemaMemo (lowercase name)).kept db =
      (db.cache.get? (schemaKey (lowercase name))).bind TableSchema.ofJson? := rfl
  rw [hknown, hkept]
  cases db.schemas.get? (lowercase name) with
  | some schema => rfl
  | none => cases (db.cache.get? (schemaKey (lowercase name))).bind TableSchema.ofJson? <;> rfl

/-- The table list is had as a memo is. -/
lemma consulting_of_knownTables {db db' : Database} {r : Except Error (List String)}
    (h : Runs knownTables db r db') : tableMemo.Consulting db r db' := by
  rw [knownTables_eq] at h
  exact Memo.consulting_of_runs (fun _ _ => fetching_of_fetchTables) h

/-- The schema of a table is had as a memo is. -/
lemma consulting_of_columnsFor {db db' : Database} {name : String} {r : Except Error TableSchema}
    (h : Runs (columnsFor name) db r db') : (schemaMemo (lowercase name)).Consulting db r db' := by
  rw [columnsFor_eq] at h
  exact Memo.consulting_of_runs (fun _ _ => fetching_of_fetchSchema) h

/-- To look for a table is to look into the table list. -/
lemma runs_tableExists {db db' : Database} {name : String} {r : Except Error Bool} :
    Runs (tableExists name) db r db' ↔
      ∃ o, r = o.map (fun tables => tables.contains (lowercase name)) ∧
        Runs knownTables db o db' :=
  runs_map

/-- A schema has the columns whose names are among the keys. -/
lemma hasColumn_eq (schema : TableSchema) (column : String) :
    schema.hasColumn column = decide (column ∈ schema.columns.keys) := by
  rw [Bool.eq_iff_iff, decide_eq_true_iff, OrderedMap.mem_keys_iff, TableSchema.hasColumn]

/-- To ask for a column is to ask for the schema, and to look among its columns. -/
lemma runs_hasColumn {db db' : Database} {name column : String} {r : Except Error Bool} :
    Runs (hasColumn name column) db r db' ↔
      ∃ o, r = o.map (fun schema => decide (column ∈ schema.columns.keys)) ∧
        Runs (columnsFor name) db o db' := by
  simp only [← hasColumn_eq]
  exact runs_map

/-- To get the handles leaves the table list, the schemas and the cache. -/
lemma Opening.knowledge_eq {db db' : Database} {r : Except Error Handles} (h : Opening db r db') :
    db'.tables = db.tables ∧ db'.schemas = db.schemas ∧ db'.cache = db.cache := by
  cases h <;> exact ⟨rfl, rfl, rfl⟩

namespace Memo
variable {α : Type} {m : Memo α} {db db' : Database}

/-- What is fetched is not yet learned. -/
lemma Fetching.knowledge_eq {r : Except Error α} (h : m.Fetching db r db') :
    db'.tables = db.tables ∧ db'.schemas = db.schemas := by
  cases h with
  | unopened hopening => exact ⟨hopening.knowledge_eq.1, hopening.knowledge_eq.2.1⟩
  | refused hopening _ => exact ⟨hopening.knowledge_eq.1, hopening.knowledge_eq.2.1⟩
  | replied hopening _ => exact ⟨hopening.knowledge_eq.1, hopening.knowledge_eq.2.1⟩

/-- To fetch leaves what is known. -/
lemma Fetching.known_eq {r : Except Error α} (h : m.Fetching db r db') :
    m.known db' = m.known db :=
  m.known_congr db db' h.knowledge_eq.1 h.knowledge_eq.2

/-- A failure to fetch leaves the cache as it was. -/
lemma Fetching.cache_eq {e : Error} (h : m.Fetching db (.error e) db') : db'.cache = db.cache := by
  cases h with
  | unopened hopening => exact hopening.knowledge_eq.2.2
  | refused hopening _ => exact hopening.knowledge_eq.2.2

/-- What is known is given. -/
lemma Consulting.of_known {a : α} {r : Except Error α} (h : m.Consulting db r db')
    (hknown : m.known db = some a) : r = .ok a ∧ db' = db := by
  cases h <;> simp_all

/-- What is kept, but not known, is learned and given. -/
lemma Consulting.of_kept {a : α} {r : Except Error α} (h : m.Consulting db r db')
    (hknown : m.known db = none) (hkept : m.kept db = some a) : r = .ok a ∧ db' = m.learn a db := by
  cases h <;> simp_all

/-- What is remembered is given. -/
lemma Consulting.of_remembered {a : α} {r : Except Error α} (h : m.Consulting db r db')
    (hremembered : m.remembered? db = some a) : r = .ok a := by
  cases h <;> simp_all [remembered?]

/-- What is given is known from then on. -/
lemma Consulting.known_of_ok {a : α} (h : m.Consulting db (.ok a) db') : m.known db' = some a := by
  cases h with
  | known hknown => exact hknown
  | kept _ _ => exact m.known_learn a db
  | fetched _ _ _ => exact m.known_learn a _

/-- A failure leaves what is remembered as it was. -/
lemma Consulting.of_error {e : Error} (h : m.Consulting db (.error e) db') :
    m.known db' = m.known db ∧ db'.cache = db.cache := by
  cases h with
  | failed _ _ hfetching => exact ⟨hfetching.known_eq, hfetching.cache_eq⟩

end Memo

/-- On a connection, the successes of a call are those among the calls on the handle for reading. -/
lemma successes_of_handles {db : Database} {handles : Handles} (h : db.handles = some (.ok handles))
    (call : Call) :
    db.successes call = handles.read.driver.successes call handles.read.history := by
  simp [successes, h]

/-- To get the handles leaves the successes of every call. -/
lemma Opening.successes_eq {db db' : Database} {r : Except Error Handles} (h : Opening db r db')
    (call : Call) : db'.successes call = db.successes call := by
  cases h with
  | opened _ => rfl
  | unavailable _ => rfl
  | connects hnone hconnect =>
    simp [successes, hnone, history_of_connect hconnect, Driver.successes]
  | fails hnone _ => simp [successes, hnone]

namespace Memo
variable {α : Type} {m : Memo α} {db db' : Database}

/-- To ask the driver adds one success of the memo's call, if the reply is one. -/
lemma successes_asked {handles : Handles} (h : db.handles = some (.ok handles)) (call : Call) :
    (m.asked db handles).successes call =
      (if m.call = call ∧ (m.reply handles).isOk = true then 1 else 0) + db.successes call := by
  rw [successes_of_handles h, m.isOk_reply]
  by_cases hcall : m.call = call
  · subst hcall
    rfl
  · simp [successes, asked, Handle.called, Driver.successes, hcall]

/-- To fetch counts as a success of its call, if it is one, and of no other call. -/
lemma Fetching.successes_eq {r : Except Error α} (h : m.Fetching db r db') (call : Call) :
    db'.successes call =
      (if m.call = call ∧ r.isOk = true then 1 else 0) + db.successes call := by
  cases h with
  | unopened hopening => simpa [Except.isOk, Except.toBool] using hopening.successes_eq call
  | refused hopening hreply =>
    rw [successes_asked hopening.handles, hopening.successes_eq, hreply]
    simp [Except.isOk, Except.toBool]
  | replied hopening hreply =>
    have hasked := successes_asked (m := m) hopening.handles call
    rw [hopening.successes_eq, hreply] at hasked
    exact hasked

/-- To learn something leaves the successes of every call. -/
lemma successes_learn (a : α) (db : Database) (call : Call) :
    (m.learn a db).successes call = db.successes call := by
  obtain ⟨tables, schemas, heq⟩ := m.learn_eq a db
  rw [heq]
  rfl

/-- The driver has replied at most once, after `n` times before, and not yet if nothing is known. -/
def RepliedOnce (m : Memo α) (n : Nat) (db : Database) : Prop :=
  db.successes m.call ≤ n + if (m.known db).isSome then 1 else 0

/-- A call that was replied to at most once since has at most one success more. -/
lemma RepliedOnce.successes_le {n : Nat} (h : m.RepliedOnce n db) :
    db.successes m.call ≤ n + 1 := by
  refine Nat.le_trans h ?_
  split <;> omega

/-- To consult a memo leaves its call replied to at most once. -/
lemma Consulting.repliedOnce {r : Except Error α} {n : Nat} (h : m.Consulting db r db')
    (hdb : m.RepliedOnce n db) : m.RepliedOnce n db' := by
  cases h with
  | known _ => exact hdb
  | @kept a hknown _ =>
    simp only [RepliedOnce, hknown, successes_learn, m.known_learn] at hdb ⊢
    simp at hdb ⊢
    omega
  | @fetched a db₁ hknown _ hfetching =>
    have hsuccesses := hfetching.successes_eq m.call
    simp only [RepliedOnce, hknown, successes_learn, m.known_learn, hsuccesses] at hdb ⊢
    simp [Except.isOk, Except.toBool] at hdb ⊢
    omega
  | failed hknown _ hfetching =>
    have hsuccesses := hfetching.successes_eq m.call
    simp only [RepliedOnce, hknown, hsuccesses, hfetching.known_eq] at hdb ⊢
    simpa [Except.isOk, Except.toBool] using hdb

end Memo

/-- The driver of a database reports some native columns for a table. -/
def Reports (db : Database) (table : String) (b : Backend) (native : List NativeColumn) : Prop :=
  ∃ handles db₁, Opening db (.ok handles) db₁ ∧ handles.backend = b ∧
    handles.read.driver.nativeColumns handles.read.history table = .ok native

/-- The driver of a database does not describe a table, for some cause. -/
def Refuses (db : Database) (table cause : String) : Prop :=
  ∃ handles db₁, Opening db (.ok handles) db₁ ∧
    handles.read.driver.nativeColumns handles.read.history table = .error cause

section Schemas
variable {db db' : Database} {table : String} {schema : TableSchema}

/-- A schema that is neither known nor kept is built from the report of the driver, and written to the
cache. -/
lemma built_of_consulting (h : (schemaMemo table).Consulting db (.ok schema) db')
    (hnew : db.schemas.get? table = none) (hmissing : (schemaMemo table).kept db = none) :
    (∃ b native, db.Reports table b native ∧ schema = .ofNative b table native) ∧
      db'.cache = db.cache.set ("schema:" ++ table) schema.toJson ∧
      db'.schemas = db.schemas.insert table schema := by
  cases h with
  | known hknown => simp [schemaMemo, hnew] at hknown
  | kept _ hkept => simp [hmissing] at hkept
  | fetched _ _ hfetching =>
    cases hfetching with
    | @replied handles db₁ _ hopening hreply =>
      obtain ⟨-, hschemas, hcache⟩ := hopening.knowledge_eq
      refine ⟨?_, congrArg (·.set ("schema:" ++ table) schema.toJson) hcache,
        congrArg (·.insert table schema) hschemas⟩
      cases hnative : handles.read.driver.nativeColumns handles.read.history table with
      | error cause => simp [schemaMemo, hnative, Except.map] at hreply
      | ok native =>
        refine ⟨handles.backend, native, ⟨handles, db₁, hopening, rfl, hnative⟩, ?_⟩
        simpa [schemaMemo, hnative, Except.map, eq_comm] using hreply

/-- A schema that is not had is one of a table that the driver does not describe, or that it cannot be
asked for. -/
lemma failure_of_consulting_schema {e : Error} (h : (schemaMemo table).Consulting db (.error e) db') :
    (e.isFatal = true ∧ Opening db (.error e) db') ∨
      ∃ cause, e = .schema table cause ∧ db.Refuses table cause := by
  cases h with
  | failed _ _ hfetching =>
    cases hfetching with
    | unopened hopening => exact .inl ⟨hopening.isFatal, hopening⟩
    | @refused handles db₁ cause hopening hreply =>
      refine .inr ⟨cause, rfl, handles, db₁, hopening, ?_⟩
      cases hnative : handles.read.driver.nativeColumns handles.read.history table with
      | ok native => simp [schemaMemo, hnative, Except.map] at hreply
      | error cause' => simpa [schemaMemo, hnative, Except.map] using hreply

end Schemas

/-- A table is looked for without the driver where a list is remembered. -/
lemma exists_runs_tableExists {db : Database} {tables : List String}
    (h : tableMemo.remembered? db = some tables) (name : String) :
    ∃ db', Runs (tableExists name) db (.ok (tables.contains (lowercase name))) db' := by
  obtain ⟨o, db', hknown⟩ := exists_runs knownTables db
  obtain rfl := (consulting_of_knownTables hknown).of_remembered h
  exact ⟨db', runs_tableExists.2 ⟨_, rfl, hknown⟩⟩

/-- A schema is had without the driver where it is remembered. -/
lemma exists_runs_columnsFor {db : Database} {name : String} {schema : TableSchema}
    (h : (schemaMemo (lowercase name)).remembered? db = some schema) :
    ∃ db', Runs (columnsFor name) db (.ok schema) db' := by
  obtain ⟨r, db', hrun⟩ := exists_runs (columnsFor name) db
  obtain rfl := (consulting_of_columnsFor hrun).of_remembered h
  exact ⟨db', hrun⟩

end Database
end RecordAccess
