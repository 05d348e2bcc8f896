import Mathlib.Data.List.Infix
import Mathlib.Tactic.Common
import RecordAccess.Proofs.Database.Memo

/-!
# What is done with a database

Whatever is done with a database, it extends it (`Extends`): a connection is attempted once and its
outcome remembered, the handles stay on the same drivers, the handle for writing is not used, and
statements and calls are only added to those before. `Keeps (Extends db)` is proved here for the
operations on databases, so that all that is put together from them extends the database as well.

An answer that was given since some call (`Answered`) stays one when the database is extended.
-/

namespace RecordAccess
open Access

/-- Handles after further calls on the one for reading. -/
structure Handles.Extends (handles handles' : Handles) : Prop where
  backend : handles'.backend = handles.backend
  write : handles'.write = handles.write
  driver : handles'.read.driver = handles.read.driver
  history : handles.read.history <:+ handles'.read.history

/-- Handles extend themselves, by no calls. -/
lemma Handles.Extends.refl (handles : Handles) : handles.Extends handles :=
  ⟨rfl, rfl, rfl, List.suffix_rfl⟩

/-- Handles that are extended twice are extended by the calls of both. -/
lemma Handles.Extends.trans {h₁ h₂ h₃ : Handles} (h₁₂ : h₁.Extends h₂) (h₂₃ : h₂.Extends h₃) :
    h₁.Extends h₃ :=
  ⟨h₂₃.backend.trans h₁₂.backend, h₂₃.write.trans h₁₂.write, h₂₃.driver.trans h₁₂.driver,
    h₁₂.history.trans h₂₃.history⟩

namespace Database

/-- What became of the connection of a database. -/
inductive Attempted (db db' : Database) : Prop where
  | idle :
    db.handles = none →
    db'.handles = none →
    db'.attempts = db.attempts →
    Attempted db db'
  | failed {e} :
    db.handles = none →
    db.connect = .error e →
    db'.handles = some (.error e.message) →
    db'.attempts = db.attempts + 1 →
    Attempted db db'
  | connected {handles handles'} :
    db.handles = none →
    db.connect = .ok handles →
    handles.Extends handles' →
    db'.handles = some (.ok handles') →
    db'.attempts = db.attempts + 1 →
    Attempted db db'
  | unavailable {reason} :
    db.handles = some (.error reason) →
    db'.handles = some (.error reason) →
    db'.attempts = db.attempts →
    Attempted db db'
  | used {handles handles'} :
    db.handles = some (.ok handles) →
    handles.Extends handles' →
    db'.handles = some (.ok handles') →
    db'.attempts = db.attempts →
    Attempted db db'

/-- A database after it was used. -/
structure Extends (db db' : Database) : Prop where
  source : db'.source = db.source
  surroundings : db'.surroundings = db.surroundings
  log : db.log <:+ db'.log
  attempted : Attempted db db'

/-- Nothing became of a connection that is as it was. -/
lemma Attempted.of_eq {db db' : Database} (hhandles : db'.handles = db.handles)
    (hattempts : db'.attempts = db.attempts) : Attempted db db' := by
  cases h : db.handles with
  | none => exact .idle h (hhandles.trans h) hattempts
  | some known =>
    cases known with
    | ok handles => exact .used h (.refl handles) (hhandles.trans h) hattempts
    | error reason => exact .unavailable h (hhandles.trans h) hattempts

/-- On a database that is left as it is, nothing became of the connection. -/
lemma Attempted.refl (db : Database) : Attempted db db := .of_eq rfl rfl

/-- A database extends itself. -/
lemma Extends.refl (db : Database) : Extends db db := ⟨rfl, rfl, List.suffix_rfl, .refl db⟩

/-- The handles that a database connects to are the same after it was used. -/
lemma Extends.connect {db db' : Database} (h : Extends db db') : db'.connect = db.connect := by
  simp [Database.connect, Database.config, h.source, h.surroundings]

/-- A database that is extended twice is extended by what came of both. -/
lemma Extends.trans {d₁ d₂ d₃ : Database} (h₁₂ : Extends d₁ d₂) (h₂₃ : Extends d₂ d₃) :
    Extends d₁ d₃ := by
  refine ⟨h₂₃.source.trans h₁₂.source, h₂₃.surroundings.trans h₁₂.surroundings,
    h₁₂.log.trans h₂₃.log, ?_⟩
  have hconnect := h₁₂.connect
  -- the second use starts from what the first one left; all other pairs of cases are absurd
  cases h₁₂.attempted with
  | idle h₁ h₂ ha =>
    cases h₂₃.attempted with
    | idle _ h₃ hb => exact .idle h₁ h₃ (hb.trans ha)
    | failed _ he h₃ hb => exact .failed h₁ (hconnect ▸ he) h₃ (by rw [hb, ha])
    | connected _ ho hx h₃ hb => exact .connected h₁ (hconnect ▸ ho) hx h₃ (by rw [hb, ha])
    | _ => simp_all
  | failed h₁ he h₂ ha =>
    cases h₂₃.attempted with
    | unavailable h₂' h₃ hb =>
      obtain rfl : _ = _ := by simpa [h₂] using h₂'
      exact .failed h₁ he h₃ (hb.trans ha)
    | _ => simp_all
  | connected h₁ ho hx h₂ ha =>
    cases h₂₃.attempted with
    | used h₂' hy h₃ hb =>
      obtain rfl : _ = _ := by simpa [h₂] using h₂'
      exact .connected h₁ ho (hx.trans hy) h₃ (hb.trans ha)
    | _ => simp_all
  | unavailable h₁ h₂ ha =>
    cases h₂₃.attempted with
    | unavailable h₂' h₃ hb =>
      obtain rfl : _ = _ := by simpa [h₂] using h₂'
      exact .unavailable h₁ h₃ (hb.trans ha)
    | _ => simp_all
  | used h₁ hx h₂ ha =>
    cases h₂₃.attempted with
    | used h₂' hy h₃ hb =>
      obtain rfl : _ = _ := by simpa [h₂] using h₂'
      exact .used h₁ (hx.trans hy) h₃ (hb.trans ha)
    | _ => simp_all

/-- Handles that are known are only used. -/
lemma Extends.used {db db' : Database} {handles : Handles} (h : Extends db db')
    (hhandles : db.handles = some (.ok handles)) :
    ∃ handles', handles.Extends handles' ∧ db'.handles = some (.ok handles') ∧
      db'.attempts = db.attempts := by
  cases h.attempted with
  | @used known known' hknown hx hknown' hattempts =>
    obtain rfl : known = handles := by simpa [hknown] using hhandles
    exact ⟨known', hx, hknown', hattempts⟩
  | _ => simp_all

/-- The calls made on a connection so far, latest first. -/
def calls (db : Database) : List Call :=
  match db.handles with
  | some (.ok handles) => handles.read.history
  | _ => []

/-- The calls of a database that is connected are those on the handle for reading. -/
lemma calls_of_handles {db : Database} {handles : Handles}
    (h : db.handles = some (.ok handles)) : db.calls = handles.read.history := by
  simp [calls, h]

/-- There are no calls before a connection. -/
lemma calls_of_none {db : Database} (h : db.handles = none) : db.calls = [] := by
  simp [calls, h]

/-- Calls are only added. -/
lemma Extends.calls {db db' : Database} (h : Extends db db') : db.calls <:+ db'.calls := by
  cases h.attempted with
  | used h₁ hx h₂ _ =>
    rw [calls_of_handles h₁, calls_of_handles h₂]
    exact hx.history
  | idle h₁ => simp [calls_of_none h₁]
  | failed h₁ => simp [calls_of_none h₁]
  | connected h₁ => simp [calls_of_none h₁]
  | unavailable h₁ => simp [Database.calls, h₁]

/-- To get the handles extends a database, on a connection or an error from then on. -/
lemma Opening.extends {db : Database} {r : Except Error Handles} {db' : Database}
    (h : Opening db r db') : Extends db db' := by
  cases h with
  | opened _ => exact .refl db
  | unavailable _ => exact .refl db
  | connects hnone hconnect =>
    exact ⟨rfl, rfl, List.suffix_rfl, .connected hnone hconnect (.refl _) rfl rfl⟩
  | fails hnone hconnect => exact ⟨rfl, rfl, List.suffix_rfl, .failed hnone hconnect rfl rfl⟩

/-- A call that is added to those on the handle extends a database, as do statements noted with it. -/
lemma extends_called {db : Database} {handles : Handles} (h : db.handles = some (.ok handles))
    (call : Call) (notes : List String) (cache : Cache) :
    Extends db { db with
      cache
      log := notes ++ db.log
      handles := some (.ok { handles with read := handles.read.called call }) } := by
  have hx : handles.Extends { handles with read := handles.read.called call } :=
    ⟨rfl, rfl, rfl, List.suffix_cons _ _⟩
  exact ⟨rfl, rfl, List.suffix_append _ _, .used h hx rfl rfl⟩

/-- To ask for rows extends a database by the statement that is sent. -/
lemma Asking.extends {db : Database} {statement : Backend → String}
    {r : Except Error (List Row)} {db' : Database} (h : Asking db statement r db') :
    Extends db db' := by
  have hsent {handles : Handles} {db₁ : Database} (hopening : Opening db (.ok handles) db₁)
      (sql : String) : Extends db (db₁.sent handles sql) :=
    hopening.extends.trans (extends_called hopening.handles (.query sql) [sql] db₁.cache)
  cases h with
  | answered hopening _ => exact hsent hopening _
  | refused hopening _ => exact hsent hopening _
  | unopened hopening => exact hopening.extends

namespace Memo
variable {α : Type} {m : Memo α} {r : Except Error α} {db db' : Database}

/-- To learn something extends a database by no call. -/
lemma extends_learn (a : α) (db : Database) : Extends db (m.learn a db) := by
  obtain ⟨tables, schemas, heq⟩ := m.learn_eq a db
  rw [heq]
  exact ⟨rfl, rfl, List.suffix_rfl, .of_eq rfl rfl⟩

/-- To fetch extends a database by a call on the handles, if they are got. -/
lemma Fetching.extends (h : m.Fetching db r db') : Extends db db' := by
  cases h with
  | unopened hopening => exact hopening.extends
  | refused hopening _ =>
    exact hopening.extends.trans (extends_called hopening.handles m.call _ _)
  | replied hopening _ =>
    exact hopening.extends.trans (extends_called hopening.handles m.call _ _)

/-- To consult a memo extends a database. -/
lemma Consulting.extends (h : m.Consulting db r db') : Extends db db' := by
  cases h with
  | known _ => exact .refl db
  | kept _ _ => exact extends_learn _ db
  | fetched _ _ hfetching => exact hfetching.extends.trans (extends_learn _ _)
  | failed _ _ hfetching => exact hfetching.extends

end Memo

section Operations
variable {db₀ : Database}

/-- Every extension of a database still is one after its handles are got. -/
lemma keeps_getHandles : Keeps (Extends db₀) getHandles :=
  fun _ _ _ hdb h => hdb.trans (opening_of_runs h).extends

/-- Every extension of a database still is one after a query. -/
lemma keeps_query (sql : String) : Keeps (Extends db₀) (query sql) :=
  fun _ _ _ hdb h => hdb.trans (asking_of_runs h).extends

/-- Every extension of a database still is one after its tables are listed. -/
lemma keeps_knownTables : Keeps (Extends db₀) knownTables :=
  fun _ _ _ hdb h => hdb.trans (consulting_of_knownTables h).extends

/-- Every extension of a database still is one after a table was looked for. -/
lemma keeps_tableExists (name : String) : Keeps (Extends db₀) (tableExists name) :=
  keeps_bind keeps_knownTables fun _ => keeps_pure _

/-- Every extension of a database still is one after its table list was given up. -/
lemma keeps_invalidateTables : Keeps (Extends db₀) invalidateTables :=
  keeps_modify fun _ hdb => hdb.trans ⟨rfl, rfl, List.suffix_rfl, .of_eq rfl rfl⟩

/-- Every extension of a database still is one after the columns of a table were described. -/
lemma keeps_columnsFor (name : String) : Keeps (Extends db₀) (columnsFor name) :=
  fun _ _ _ hdb h => hdb.trans (consulting_of_columnsFor h).extends

/-- Every extension of a database still is one after a column was looked for. -/
lemma keeps_hasColumn (table name : String) : Keeps (Extends db₀) (hasColumn table name) :=
  keeps_bind (keeps_columnsFor table) fun _ => keeps_pure _

end Operations

/-- An answer that a statement of the backend was given on the connection, after the calls in
`since`. -/
def Answered (since : List Call) (db : Database) (statement : Backend → String)
    (rows : List Row) : Prop :=
  ∃ handles earlier,
    db.handles = some (.ok handles) ∧
      since <:+ earlier ∧
      (.query (statement handles.backend) :: earlier) <:+ handles.read.history ∧
      handles.read.driver.queryRows earlier (statement handles.backend) = .ok rows

/-- An answer stays one. -/
lemma Answered.extends {since : List Call} {db db' : Database} {statement : Backend → String}
    {rows : List Row} (h : Answered since db statement rows) (hdb : Extends db db') :
    Answered since db' statement rows := by
  obtain ⟨handles, earlier, hhandles, hsince, hcalls, hrows⟩ := h
  obtain ⟨handles', hx, hhandles', -⟩ := hdb.used hhandles
  refine ⟨handles', earlier, hhandles', hsince, ?_, ?_⟩
  · rw [hx.backend]
    exact hcalls.trans hx.history
  · rw [hx.backend, hx.driver]
    exact hrows

/-- The calls before are among those on the handles that are got. -/
lemma Opening.calls {db : Database} {handles : Handles} {db₁ : Database}
    (h : Opening db (.ok handles) db₁) : db.calls <:+ handles.read.history :=
  calls_of_handles h.handles ▸ h.extends.calls

/-- The rows that are got for a statement are an answer to it, given after the calls before. -/
lemma Asking.answered_since {since : List Call} {db : Database} {statement : Backend → String}
    {rows : List Row} {db' : Database} (h : Asking db statement (.ok rows) db')
    (hsince : since <:+ db.calls) : Answered since db' statement rows := by
  cases h with
  | @answered handles _ _ hopening hrows =>
    exact ⟨_, handles.read.history, rfl, hsince.trans hopening.calls, List.suffix_rfl, hrows⟩

end Database
end RecordAccess
