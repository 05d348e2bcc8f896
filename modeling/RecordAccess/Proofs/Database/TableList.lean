import RecordAccess.Proofs.Database.Memo
import RecordAccess.Proofs.Database.Statements
import RecordAccess.Proofs.Use.Basic

/-!
# The table list of a context

Runs in which tables are looked for and the table list is given up (`TableStep`). A stretch of a run
starts with the context or with an invalidation, and is followed by looking for tables only. What holds
after a stretch is an invariant of its own (`Stretch`, with `Stretch.consulting` for one look): as long as
the list is not known, the cache is as it was at the start; once it is known, it is the list that the
cache kept at the start, or else the one reply of the driver since then. Each part of `tables_settled`
follows from the invariant by a lemma of its own (`Stretch.successes_le`, `Stretch.listed`,
`Stretch.calls`, `Stretch.failure`).
-/

namespace RecordAccess.Database
open Access Memo

/-- A step of a run over the table list. -/
inductive TableStep where
  | exists (name : String)
  | invalidate

/-- Take a step. -/
def TableStep.run : TableStep → Access Database Unit
  | .exists name => (tableExists name).ignored
  | .invalidate => invalidateTables

/-- The database after some steps, whether they failed or not. -/
def afterTableSteps (steps : List TableStep) (db : Database) : Database :=
  steps.foldl (fun db step => (step.run.outcome db).2) db

/-- The database after some tables were looked for. -/
def afterLooks (names : List String) (db : Database) : Database :=
  afterTableSteps (names.map .exists) db

/-- The driver replied with the tables on the connection, after the calls in `since`. -/
def ListedSince (since : List Call) (db : Database) (tables : List String) : Prop :=
  ∃ handles earlier names,
    db.handles = some (.ok handles) ∧
      since <:+ earlier ∧
      (.tables :: earlier) <:+ handles.read.history ∧
      handles.read.driver.listTables earlier = .ok names ∧
      tables = names.map lowercase

/-- What looking for tables since the start of a stretch has led to. -/
structure Stretch (start db : Database) : Prop where
  later : Extends start db
  cache : db.tables = none → db.cache = start.cache
  tables : ∀ tables, db.tables = some tables →
    tableMemo.kept start = some tables ∨
      tableMemo.kept start = none ∧ ListedSince start.calls db tables
  repliedOnce : tableMemo.RepliedOnce (start.successes .tables) db
  unasked : (tableMemo.kept start).isSome → db.successes .tables = start.successes .tables

variable {start db db' : Database}

/-- As long as the list is not known, the cache keeps what it kept at the start. -/
lemma Stretch.kept_eq (h : Stretch start db) (hnone : db.tables = none) :
    tableMemo.kept db = tableMemo.kept start := by
  rw [kept, kept, h.cache hnone]

/-- A list that was fetched is the reply of the driver to a call after those before. -/
lemma listedSince_of_fetching {tables : List String} (h : tableMemo.Fetching db (.ok tables) db') :
    ListedSince db.calls (tableMemo.learn tables db') tables := by
  cases h with
  | @replied handles db₁ _ hopening hreply =>
    cases hnames : handles.read.driver.listTables handles.read.history with
    | error cause => simp [tableMemo, hnames, Except.map] at hreply
    | ok names =>
      obtain rfl : names.map lowercase = tables := by
        simpa [tableMemo, hnames, Except.map] using hreply
      exact ⟨{ handles with read := handles.read.called .tables }, handles.read.history, names, rfl,
        hopening.calls, List.suffix_rfl, hnames, rfl⟩

/-- A look keeps what the stretch has led to. -/
lemma Stretch.consulting {r : Except Error (List String)} (h : Stretch start db)
    (hconsulting : tableMemo.Consulting db r db') (hextends : Extends db db') :
    Stretch start db' := by
  have hlater := h.later.trans hextends
  have honce := hconsulting.repliedOnce h.repliedOnce
  cases hconsulting with
  | known _ => exact h
  | @kept tables hnone hkept =>
    rw [h.kept_eq hnone] at hkept
    refine ⟨hlater, nofun, ?_, honce, h.unasked⟩
    intro tables' htables'
    cases htables'
    exact .inl hkept
  | @fetched tables db₁ hnone hkept hfetching =>
    rw [h.kept_eq hnone] at hkept
    refine ⟨hlater, nofun, ?_, honce, by simp [hkept]⟩
    intro tables' htables'
    cases htables'
    obtain ⟨handles, earlier, names, hhandles, hsince, hlisted⟩ := listedSince_of_fetching hfetching
    exact .inr ⟨hkept, handles, earlier, names, hhandles, h.later.calls.trans hsince, hlisted⟩
  | failed hnone hkept hfetching =>
    rw [h.kept_eq hnone] at hkept
    refine ⟨hlater, fun _ => hfetching.cache_eq.trans (h.cache hnone), ?_, honce, by simp [hkept]⟩
    have htables : db'.tables = none := hfetching.known_eq.trans hnone
    simp [htables]

/-- A look for a table goes on with the stretch. -/
lemma Stretch.tableExists {name : String} {r : Except Error Bool} (h : Stretch start db)
    (hrun : Runs (tableExists name) db r db') : Stretch start db' := by
  have hextends : Extends db db' := keeps_tableExists name db r db' (.refl db) hrun
  obtain ⟨o, -, hknown⟩ := runs_tableExists.1 hrun
  exact h.consulting (consulting_of_knownTables hknown) hextends

/-- What every look keeps is kept while tables are looked for. -/
lemma afterLooks_induction {P : Database → Prop}
    (hlook : ∀ name db r db', P db → Runs (Database.tableExists name) db r db' → P db')
    (names : List String) (hdb : P db) : P (afterLooks names db) := by
  rw [afterLooks, afterTableSteps, List.foldl_map]
  refine keeps_foldl (fun name db r db' hdb hrun => ?_) names hdb
  obtain ⟨o, -, hexists⟩ := runs_of_ignored hrun
  exact hlook name db o db' hdb hexists

/-- A list that is known stays known while tables are looked for. -/
lemma tables_afterLooks {tables : List String} (names : List String)
    (h : db.tables = some tables) : (afterLooks names db).tables = some tables := by
  refine afterLooks_induction (P := fun db => db.tables = some tables)
    (fun name db r db' hdb hrun => ?_) names h
  obtain ⟨o, -, hknown⟩ := runs_tableExists.1 hrun
  rw [((consulting_of_knownTables hknown).of_known hdb).2]
  exact hdb

/-- A list that is known answers every look, without any change. -/
lemma runs_tableExists_of_known {tables : List String} (name : String)
    (h : db.tables = some tables) :
    Runs (Database.tableExists name) db (.ok (tables.contains (lowercase name))) db := by
  obtain ⟨o, db₁, hrun⟩ := exists_runs knownTables db
  obtain ⟨rfl, rfl⟩ := (consulting_of_knownTables hrun).of_known h
  exact runs_tableExists.2 ⟨.ok tables, rfl, hrun⟩

/-- In a stretch the driver lists the tables once, or not at all if the cache keeps a list at its start. -/
lemma Stretch.successes_le (h : Stretch start db) :
    db.successes .tables ≤
      start.successes .tables + (if (tableMemo.kept start).isSome then 0 else 1) := by
  cases hkept : (tableMemo.kept start).isSome with
  | true => exact Nat.le_of_eq (h.unasked hkept)
  | false => exact h.repliedOnce.successes_le

/-- A list that is had in a stretch is the one kept at its start, or else the reply of the driver since
then, and answers every later look. -/
lemma Stretch.listed {tables : List String} (h : Stretch start db)
    (htables : db.tables = some tables) :
    (tableMemo.kept start = some tables ∨
      tableMemo.kept start = none ∧ ListedSince start.calls db tables) ∧
      ∀ later name, let db' := afterLooks later db
        Runs (Database.tableExists name) db' (.ok (tables.contains (lowercase name))) db' :=
  ⟨h.tables tables htables,
    fun later name => runs_tableExists_of_known name (tables_afterLooks later htables)⟩

/-- To look for a table without a list asks the driver, unless there is no connection to ask on. -/
lemma calls_of_consulting {r : Except Error (List String)} (h : tableMemo.Consulting db r db')
    (hnone : db.tables = none) (hkept : tableMemo.kept db = none) :
    db'.calls = .tables :: db.calls ∨
      ∃ e, r = .error e ∧ e.isFatal = true ∧ db'.calls = db.calls := by
  have hasked {handles : Handles} {db₁ : Database} (hopening : Opening db (.ok handles) db₁) :
      (tableMemo.asked db₁ handles).calls = .tables :: db.calls := by
    rw [← hopening.calls_eq, calls_of_handles hopening.handles]
    rfl
  cases h with
  | known hknown => simp [tableMemo, hnone] at hknown
  | kept _ hsome => simp [hkept] at hsome
  | fetched _ _ hfetching =>
    cases hfetching with
    | replied hopening _ => exact .inl (hasked hopening)
  | failed _ _ hfetching =>
    cases hfetching with
    | unopened hopening => exact .inr ⟨_, rfl, hopening.isFatal, hopening.calls_eq⟩
    | refused hopening _ => exact .inl (hasked hopening)

/-- A look in a stretch without a list asks the driver, unless there is no connection to ask on. -/
lemma Stretch.calls {r : Except Error (List String)} (h : Stretch start db)
    (hconsulting : tableMemo.Consulting db r db') (hnone : db.tables = none)
    (hkept : tableMemo.kept start = none) :
    db'.calls = .tables :: db.calls ∨
      ∃ e, r = .error e ∧ e.isFatal = true ∧ db'.calls = db.calls :=
  calls_of_consulting hconsulting hnone ((h.kept_eq hnone).trans hkept)

/-- A look that fails had no list to go by, and is refused by the connection or by the driver. -/
lemma failure_of_consulting {e : Error} (h : tableMemo.Consulting db (.error e) db') :
    db.tables = none ∧ tableMemo.kept db = none ∧
      (e.isFatal = true ∨ ∃ b cause, e = .query (Backend.tableListQuery b) cause) := by
  cases h with
  | failed hnone hkept hfetching =>
    refine ⟨hnone, hkept, ?_⟩
    cases hfetching with
    | unopened hopening => exact .inl hopening.isFatal
    | @refused handles _ cause _ _ => exact .inr ⟨handles.backend, cause, rfl⟩

/-- A look that fails in a stretch leaves what is remembered, and is one without a list. -/
lemma Stretch.failure {e : Error} (h : Stretch start db)
    (hconsulting : tableMemo.Consulting db (.error e) db') :
    db'.tables = none ∧ db'.cache = db.cache ∧ tableMemo.kept start = none ∧
      (e.isFatal = true ∨ ∃ b cause, e = .query (Backend.tableListQuery b) cause) := by
  obtain ⟨hnone, hkept, hcause⟩ := failure_of_consulting hconsulting
  obtain ⟨htables, hcache⟩ := hconsulting.of_error
  exact ⟨htables.trans hnone, hcache, (h.kept_eq hnone).symm.trans hkept, hcause⟩

end RecordAccess.Database
