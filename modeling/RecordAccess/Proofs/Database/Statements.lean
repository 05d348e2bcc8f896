import Mathlib.Data.List.Infix
import Mathlib.Tactic.Common
import RecordAccess.Proofs.Database.Serving

/-!
# Statements and replies

The statements that a connection was sent are the queries among its calls. To describe the columns of
a table sends none (`Describing`). A statement that is asked is sent once, and what the driver replied
to it can be read from the calls (`Replied`): `Asking.unopened_or_sent` says that asking either fails
to connect, or sends the statement and has the driver's reply as its outcome.
-/

namespace RecordAccess
open Access

/-- The statement of a call, if it is one of a query. -/
def Call.statement? : Call → Option String
  | query sql => some sql
  | _ => none

namespace Database
variable {db db₁ db' : Database} {statement : Backend → String}

/-- The statements sent on the connection, latest first. -/
def statements (db : Database) : List String := db.calls.filterMap Call.statement?

/-- The reply of the driver to a statement of the backend, sent after the calls in `since`. -/
def Replied (since : List Call) (db : Database) (statement : Backend → String)
    (reply : Except String (List Row)) : Prop :=
  ∃ handles earlier,
    db.handles = some (.ok handles) ∧
      since <:+ earlier ∧
      (.query (statement handles.backend) :: earlier) <:+ handles.read.history ∧
      handles.read.driver.queryRows earlier (statement handles.backend) = reply

/-- A database after columns were described, for which no statement is sent. -/
structure Describing (db db' : Database) : Prop where
  extended : Extends db db'
  statements : db'.statements = db.statements

/-- To do nothing describes nothing. -/
lemma Describing.refl (db : Database) : Describing db db := ⟨.refl db, rfl⟩

/-- The same calls have the same statements among them. -/
lemma statements_of_calls (h : db'.calls = db.calls) : db'.statements = db.statements := by
  rw [statements, h, statements]

/-- To get the handles sends nothing. -/
lemma Opening.calls_eq {r : Except Error Handles} (h : Opening db r db') :
    db'.calls = db.calls := by
  cases h with
  | opened _ => rfl
  | unavailable _ => rfl
  | connects hnone hconnect =>
    rw [calls_of_none hnone, ← history_of_connect hconnect]
    rfl
  | fails hnone _ =>
    rw [calls_of_none hnone]
    rfl

/-- A reply takes a statement sent after the calls before. -/
lemma Replied.lt_statements {reply : Except String (List Row)}
    (h : Replied db.calls db' statement reply) :
    db.statements.length < db'.statements.length := by
  obtain ⟨handles, earlier, hhandles, hsince, hcalls, -⟩ := h
  obtain ⟨more, hearlier⟩ := hsince
  obtain ⟨later, hhistory⟩ := hcalls
  rw [statements, statements, calls_of_handles hhandles, ← hhistory, ← hearlier]
  simp [List.filterMap_append, Call.statement?]
  omega

/-- Where no statement was sent since, there is no reply to one. -/
lemma not_replied_of_statements {reply : Except String (List Row)}
    (h : db'.statements = db.statements) : ¬ Replied db.calls db' statement reply := by
  intro hreplied
  have hlt := hreplied.lt_statements
  rw [h] at hlt
  exact Nat.lt_irrefl _ hlt

/-- A statement that is sent once has one reply. -/
lemma replied_iff_of_sent {handles : Handles} {reply : Except String (List Row)}
    (hdescribing : Describing db db₁) (hhandles : db₁.handles = some (.ok handles)) :
    Replied db.calls (db₁.sent handles (statement handles.backend)) statement reply ↔
      handles.read.driver.queryRows handles.read.history (statement handles.backend) = reply := by
  constructor
  · rintro ⟨handles', earlier, hhandles', hsince, hcalls, hreply⟩
    obtain rfl : { handles with
        read := handles.read.called (.query (statement handles.backend)) } = handles' := by
      simpa [sent] using hhandles'
    obtain ⟨more, hearlier⟩ := hsince
    obtain ⟨later, hhistory⟩ := hcalls
    -- were the statement sent before the last call, there would be two statements in place of one
    cases later with
    | nil =>
      have hsame : earlier = handles.read.history := by simpa [Handle.called] using hhistory
      rw [← hreply, hsame]
      rfl
    | cons call later =>
      exfalso
      have hrest : later ++ .query (statement handles.backend) :: earlier =
          handles.read.history := by
        simp only [List.cons_append, Handle.called, List.cons.injEq] at hhistory
        exact hhistory.2
      have hstatements := hdescribing.statements
      rw [statements, calls_of_handles hhandles, ← hrest, ← hearlier] at hstatements
      have hlength := congrArg List.length hstatements
      simp [List.filterMap_append, Call.statement?, statements] at hlength
      omega
  · intro hreply
    refine ⟨_, handles.read.history, rfl, ?_, List.suffix_rfl, hreply⟩
    exact calls_of_handles hhandles ▸ hdescribing.extended.calls

/-- To ask fails to connect, or sends the statement and ends as the driver replied. -/
lemma Asking.unopened_or_sent {r : Except Error (List Row)} (hdescribing : Describing db db₁)
    (h : Asking db₁ statement r db') :
    (∃ e, r = .error e ∧ Opening db₁ (.error e) db' ∧ db'.statements = db.statements) ∨
      ∃ b reply, r = reply.mapError (.query (statement b)) ∧
        db'.statements = statement b :: db.statements ∧
        ∀ reply', Replied db.calls db' statement reply' ↔ reply = reply' := by
  have hsent {handles : Handles} {db₂ : Database} (hopening : Opening db₁ (.ok handles) db₂) :
      (db₂.sent handles (statement handles.backend)).statements =
          statement handles.backend :: db.statements ∧
        ∀ reply', Replied db.calls (db₂.sent handles (statement handles.backend)) statement reply' ↔
          handles.read.driver.queryRows handles.read.history (statement handles.backend) =
            reply' := by
    have hdescribing' : Describing db db₂ :=
      ⟨hdescribing.extended.trans hopening.extends,
        (statements_of_calls hopening.calls_eq).trans hdescribing.statements⟩
    refine ⟨?_, fun reply' => replied_iff_of_sent hdescribing' hopening.handles⟩
    rw [← hdescribing'.statements, statements, statements, calls_of_handles hopening.handles]
    rfl
  cases h with
  | @answered handles db₂ rows hopening hrows =>
    obtain ⟨hstatements, hreplied⟩ := hsent hopening
    rw [hrows] at hreplied
    exact .inr ⟨handles.backend, .ok rows, rfl, hstatements, hreplied⟩
  | @refused handles db₂ cause hopening hrows =>
    obtain ⟨hstatements, hreplied⟩ := hsent hopening
    rw [hrows] at hreplied
    exact .inr ⟨handles.backend, .error cause, rfl, hstatements, hreplied⟩
  | unopened hopening =>
    refine .inl ⟨_, rfl, hopening, ?_⟩
    exact (statements_of_calls hopening.calls_eq).trans hdescribing.statements

/-- To ask for the columns of a table is a call that sends no statement. -/
lemma statements_of_fetching {table : String} {r : Except Error TableSchema}
    (h : (schemaMemo table).Fetching db r db') : db'.statements = db.statements := by
  have hasked {handles : Handles} {db₁ : Database} (hopening : Opening db (.ok handles) db₁) :
      ((schemaMemo table).asked db₁ handles).statements = db.statements := by
    rw [← statements_of_calls hopening.calls_eq, statements, statements,
      calls_of_handles hopening.handles]
    rfl
  cases h with
  | unopened hopening => exact statements_of_calls hopening.calls_eq
  | refused hopening _ => exact hasked hopening
  | replied hopening _ => exact hasked hopening

/-- To consult the memo of a schema sends no statement. -/
lemma describing_of_consulting {table : String} {r : Except Error TableSchema}
    (h : (schemaMemo table).Consulting db r db') : Describing db db' := by
  refine ⟨h.extends, ?_⟩
  cases h with
  | known _ => rfl
  | kept _ _ => rfl
  | @fetched schema db₁ _ _ hfetching =>
    -- what is learned changes no call
    have hlearned : ((schemaMemo table).learn schema db₁).statements = db₁.statements := rfl
    exact hlearned.trans (statements_of_fetching hfetching)
  | failed _ _ hfetching => exact statements_of_fetching hfetching

/-- To ask for columns sends no statement. -/
lemma describing_of_columnsFor {name : String} {r : Except Error TableSchema}
    (h : Runs (columnsFor name) db r db') : Describing db db' :=
  describing_of_consulting (consulting_of_columnsFor h)

end Database
end RecordAccess
