import Mathlib.Tactic.Common
import RecordAccess.Proofs.Access

/-!
# The connection of a database

How an operation comes to the handles of a database (`Opening`), and how a statement is answered
(`Asking`). A connection is attempted once, on first use; from then on the handles are known, or the
error that every later operation fails with.

Runs of the operations on databases are one of these two by `opening_of_runs` and `asking_of_runs`;
`asking_of_backend` is for the statements that are written for the backend of the connection.
-/

namespace RecordAccess

/-- Surroundings in which there is nothing. -/
def Surroundings.empty : Surroundings where
  environment _ := none
  openFile _ := .error "missing"
  connectServer _ := .error "missing"

namespace Database
open Access

/-- How a context begins: with what to connect by, or on drivers that are connected already. -/
inductive Beginning where
  | source (source : Source)
  | drivers (read : Driver) (write : Option Driver)

/-- The database of a context that begins. -/
def Beginning.database (surroundings : Surroundings) (cache : Cache) : Beginning → Database
  | .source origin => ofSource origin surroundings cache
  | .drivers read write => ofDrivers read write surroundings cache

/-- The handles that an operation gets, or the error it fails with, and the database left. -/
inductive Opening (db : Database) : Except Error Handles → Database → Prop where
  | opened {handles} :
    db.handles = some (.ok handles) →
    Opening db (.ok handles) db
  | unavailable {reason} :
    db.handles = some (.error reason) →
    Opening db (.error (.unavailable reason)) db
  | connects {handles} :
    db.handles = none →
    db.connect = .ok handles →
    Opening db (.ok handles) { db with handles := some (.ok handles), attempts := db.attempts + 1 }
  | fails {e} :
    db.handles = none →
    db.connect = .error e →
    Opening db (.error e) { db with handles := some (.error e.message), attempts := db.attempts + 1 }

/-- The database after a statement was sent through a handle. -/
def sent (db : Database) (handles : Handles) (sql : String) : Database :=
  { db with
    log := sql :: db.log
    handles := some (.ok { handles with read := handles.read.called (.query sql) }) }

/-- The answer to a statement of the backend, or the error, and the database left. -/
inductive Asking (db : Database) (statement : Backend → String) :
    Except Error (List Row) → Database → Prop where
  | answered {handles db₁ rows} :
    Opening db (.ok handles) db₁ →
    handles.read.driver.queryRows handles.read.history (statement handles.backend) = .ok rows →
    Asking db statement (.ok rows) (db₁.sent handles (statement handles.backend))
  | refused {handles db₁ cause} :
    Opening db (.ok handles) db₁ →
    handles.read.driver.queryRows handles.read.history (statement handles.backend) = .error cause →
    Asking db statement (.error (.query (statement handles.backend) cause))
      (db₁.sent handles (statement handles.backend))
  | unopened {e db₁} :
    Opening db (.error e) db₁ →
    Asking db statement (.error e) db₁

/-- On a new connection no calls have been made. -/
lemma history_of_connect {db : Database} {handles : Handles} (h : db.connect = .ok handles) :
    handles.read.history = [] := by
  unfold connect at h
  cases htarget : db.config.target with
  | error fault => simp [htarget] at h
  | ok target =>
    simp only [htarget] at h
    cases target with
    | sqlite path =>
      cases hdriver : db.surroundings.openFile path with
      | error cause => simp [connectTo, hdriver] at h
      | ok driver =>
        simp only [connectTo, hdriver, Except.ok.injEq] at h
        rw [← h]
        rfl
    | sqlServer readLogin writeLogin =>
      cases hread : db.surroundings.connectServer readLogin with
      | error cause => simp [connectTo, hread] at h
      | ok read =>
        cases hwrite : db.surroundings.connectServer writeLogin with
        | error cause => simp [connectTo, hread, hwrite] at h
        | ok write =>
          simp only [connectTo, hread, hwrite, Except.ok.injEq] at h
          rw [← h]
          rfl

/-- A failure to connect is one of the configuration or of the connection. -/
lemma error_of_connect {db : Database} {e : Error} (h : db.connect = .error e) :
    (∃ fault, e = .config fault) ∨ ∃ b cause, e = .connection b cause := by
  unfold connect at h
  cases htarget : db.config.target with
  | error fault =>
    simp only [htarget, Except.error.injEq] at h
    exact .inl ⟨fault, h.symm⟩
  | ok target =>
    simp only [htarget] at h
    cases target with
    | sqlite path =>
      cases hdriver : db.surroundings.openFile path with
      | ok driver => simp [connectTo, hdriver] at h
      | error cause =>
        simp only [connectTo, hdriver, Except.error.injEq] at h
        exact .inr ⟨_, cause, h.symm⟩
    | sqlServer readLogin writeLogin =>
      cases hread : db.surroundings.connectServer readLogin with
      | error cause =>
        simp only [connectTo, hread, Except.error.injEq] at h
        exact .inr ⟨_, cause, h.symm⟩
      | ok read =>
        cases hwrite : db.surroundings.connectServer writeLogin with
        | ok write => simp [connectTo, hread, hwrite] at h
        | error cause =>
          simp only [connectTo, hread, hwrite, Except.error.injEq] at h
          exact .inr ⟨_, cause, h.symm⟩

/-- Handles are got in one of four ways. -/
lemma opening_of_runs {db : Database} {r : Except Error Handles} {db' : Database}
    (h : Runs getHandles db r db') : Opening db r db' := by
  unfold Runs outcome getHandles at h
  cases hhandles : db.handles with
  | none =>
    cases hconnect : db.connect with
    | ok handles =>
      simp only [hhandles, hconnect, Prod.mk.injEq] at h
      obtain ⟨rfl, rfl⟩ := h
      exact .connects hhandles hconnect
    | error e =>
      simp only [hhandles, hconnect, Prod.mk.injEq] at h
      obtain ⟨rfl, rfl⟩ := h
      exact .fails hhandles hconnect
  | some known =>
    cases known with
    | ok handles =>
      simp only [hhandles, Prod.mk.injEq] at h
      obtain ⟨rfl, rfl⟩ := h
      exact .opened hhandles
    | error reason =>
      simp only [hhandles, Prod.mk.injEq] at h
      obtain ⟨rfl, rfl⟩ := h
      exact .unavailable hhandles

/-- Handles that are got are those of the database from then on. -/
lemma Opening.handles {db : Database} {handles : Handles} {db₁ : Database}
    (h : Opening db (.ok handles) db₁) : db₁.handles = some (.ok handles) := by
  cases h with
  | opened hhandles => exact hhandles
  | connects _ _ => rfl

/-- Without handles every further access fails. -/
lemma Opening.isFatal {db : Database} {e : Error} {db₁ : Database}
    (h : Opening db (.error e) db₁) : e.isFatal = true := by
  cases h with
  | unavailable _ => rfl
  | fails _ hconnect =>
    obtain ⟨fault, rfl⟩ | ⟨b, cause, rfl⟩ := error_of_connect hconnect
    · rfl
    · rfl

/-- Handles that are known are got without a change. -/
lemma Opening.known {db : Database} {handles : Handles} {r : Except Error Handles} {db₁ : Database}
    (hhandles : db.handles = some (.ok handles)) (h : Opening db r db₁) :
    r = .ok handles ∧ db₁ = db := by
  cases h <;> simp_all

/-- The backend is that of the handles that are got. -/
lemma runs_backend {db : Database} {r : Except Error Backend} {db' : Database}
    (h : Runs backend db r db') : ∃ o, r = o.map Handles.backend ∧ Opening db o db' := by
  obtain ⟨e, rfl, hopen⟩ | ⟨handles, db₁, hopen, hr⟩ := runs_bind.1 h
  · exact ⟨.error e, rfl, opening_of_runs hopen⟩
  · obtain ⟨rfl, rfl⟩ := runs_pure.1 hr
    exact ⟨.ok handles, rfl, opening_of_runs hopen⟩

/-- A call goes to the handle for reading, once the handles are got. -/
lemma runs_callReader {α : Type} {call : Handle → Except String α × Handle} {db : Database}
    {r : Except Error (Except String α)} {db' : Database} (h : Runs (callReader call) db r db') :
    (∃ e, r = .error e ∧ Opening db (.error e) db') ∨
      ∃ handles db₁, Opening db (.ok handles) db₁ ∧ r = .ok (call handles.read).1 ∧
        db' = { db₁ with handles := some (.ok { handles with read := (call handles.read).2 }) } := by
  obtain ⟨e, rfl, hopen⟩ | ⟨handles, db₁, hopen, h⟩ := runs_bind.1 h
  · exact .inl ⟨e, rfl, opening_of_runs hopen⟩
  · refine .inr ⟨handles, db₁, opening_of_runs hopen, ?_⟩
    simpa [runs_map, Except.map] using h

/-- A call is answered by the handle that is known. -/
lemma runs_callReader_of_handles {α : Type} {call : Handle → Except String α × Handle}
    {db : Database} {handles : Handles} {r : Except Error (Except String α)} {db' : Database}
    (hhandles : db.handles = some (.ok handles)) (h : Runs (callReader call) db r db') :
    r = .ok (call handles.read).1 ∧
      db' = { db with handles := some (.ok { handles with read := (call handles.read).2 }) } := by
  obtain ⟨e, rfl, hopening⟩ | ⟨got, db₁, hopening, rfl, rfl⟩ := runs_callReader h
  · cases (hopening.known hhandles).1
  · obtain ⟨hgot, rfl⟩ := hopening.known hhandles
    cases hgot
    exact ⟨rfl, rfl⟩

/-- A statement is asked of the handle for reading. -/
lemma asking_of_runs {db : Database} {sql : String} {r : Except Error (List Row)} {db' : Database}
    (h : Runs (query sql) db r db') : Asking db (fun _ => sql) r db' := by
  obtain ⟨e, rfl, hopen⟩ | ⟨handles, db₁, hopen, h⟩ := runs_bind.1 h
  · exact .unopened (opening_of_runs hopen)
  have hopening := opening_of_runs hopen
  obtain ⟨e, -, hnote⟩ | ⟨_, db₂, hnote, h⟩ := runs_bind.1 h
  · cases (runs_modify.1 hnote).1
  obtain ⟨-, rfl⟩ := runs_modify.1 hnote
  -- the statement is noted before it is sent, which leaves the handles as they are
  have hhandles : ({ db₁ with log := sql :: db₁.log } : Database).handles = some (.ok handles) :=
    hopening.handles
  obtain ⟨e, -, hcall⟩ | ⟨answer, db₃, hcall, h⟩ := runs_bind.1 h
  · cases (runs_callReader_of_handles hhandles hcall).1
  obtain ⟨hanswer, rfl⟩ := runs_callReader_of_handles hhandles hcall
  cases hanswer
  cases hrows : handles.read.driver.queryRows handles.read.history sql with
  | ok rows =>
    simp only [Handle.query, hrows, runs_pure] at h
    obtain ⟨rfl, rfl⟩ := h
    exact .answered hopening hrows
  | error cause =>
    simp only [Handle.query, hrows, runs_throw] at h
    obtain ⟨rfl, rfl⟩ := h
    exact .refused hopening hrows

/-- A statement that depends on the backend is asked once the backend is got. -/
lemma asking_of_backend {db db₁ : Database} {statement : Backend → String} {b : Backend}
    {r : Except Error (List Row)} {db' : Database} (hb : Runs backend db (.ok b) db₁)
    (hq : Runs (query (statement b)) db₁ r db') : Asking db statement r db' := by
  obtain ⟨o, ho, hopening⟩ := runs_backend hb
  cases o with
  | error e => cases ho
  | ok handles =>
    cases ho
    -- the handles are known by now, so that the statement goes to those the backend was got with
    cases asking_of_runs hq with
    | answered h hrows =>
      obtain ⟨hgot, rfl⟩ := h.known hopening.handles
      cases hgot
      exact .answered hopening hrows
    | refused h hrows =>
      obtain ⟨hgot, rfl⟩ := h.known hopening.handles
      cases hgot
      exact .refused hopening hrows
    | unopened h => cases (h.known hopening.handles).1

end Database
end RecordAccess
