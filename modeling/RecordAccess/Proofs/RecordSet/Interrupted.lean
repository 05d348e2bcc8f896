import RecordAccess.Proofs.Database.Statements
import RecordAccess.Proofs.RecordSet.Coherence
import RecordAccess.Proofs.Sql.Statement

/-!
# Looking up records in vain

A record cannot be looked up if the rows cannot be counted, or the page of its place cannot be loaded
(`Interrupted`). Such a failure leaves a set as it was, with the number of its rows if that was counted
before the page failed, and the same call goes on from there (`resumes_of_interrupted`): it sends the
statement that failed first, and none again that was answered.
-/

namespace RecordAccess
open Access Database

namespace Database
variable {b : Backend} {db db' : Database} {statement : Backend → String}
  {o : Except Error (List Row)}

/-- A database on a connection to a backend. -/
def Connected (b : Backend) (db : Database) : Prop :=
  ∃ handles, db.handles = some (.ok handles) ∧ handles.backend = b

/-- A database whose connection failed. -/
def Unavailable (db : Database) : Prop := ∃ reason, db.handles = some (.error reason)

/-- A database stays connected to its backend. -/
lemma Connected.extends (h : db.Connected b) (hdb : Extends db db') : db'.Connected b := by
  obtain ⟨handles, hhandles, hbackend⟩ := h
  obtain ⟨handles', hx, hhandles', -⟩ := hdb.used hhandles
  exact ⟨handles', hhandles', hx.backend.trans hbackend⟩

/-- A database whose connection failed stays without one. -/
lemma Unavailable.extends (h : db.Unavailable) (hdb : Extends db db') : db'.Unavailable := by
  obtain ⟨reason, hreason⟩ := h
  cases hdb.attempted with
  | unavailable _ h => exact ⟨_, h⟩
  | _ => simp_all

/-- The statements sent before are among those sent later. -/
lemma Extends.statements (h : Extends db db') : db.statements <:+ db'.statements := by
  obtain ⟨later, hlater⟩ := h.calls
  exact ⟨later.filterMap Call.statement?, by simp [Database.statements, ← hlater]⟩

/-- Where no handles are got, the connection has failed for good. -/
lemma Opening.unavailable_of_error {e : Error} (h : Opening db (.error e) db') : db'.Unavailable := by
  cases h with
  | unavailable hreason => exact ⟨_, hreason⟩
  | fails _ _ => exact ⟨_, rfl⟩

/-- What a statement that is asked for comes to: no connection, then or later, or to be sent. -/
lemma Asking.unavailable_or_sent (h : Asking db statement o db') :
    (∃ e, o = .error e ∧ e.isFatal = true ∧ db'.Unavailable ∧ db'.statements = db.statements) ∨
      ∃ b, db'.Connected b ∧ db'.statements = statement b :: db.statements ∧
        ∀ e, o = .error e → ∃ cause, e = .query (statement b) cause := by
  have hsent {handles : Handles} {db₁ : Database} (hopening : Opening db (.ok handles) db₁) :
      (db₁.sent handles (statement handles.backend)).Connected handles.backend ∧
        (db₁.sent handles (statement handles.backend)).statements =
          statement handles.backend :: db.statements := by
    refine ⟨⟨_, rfl, rfl⟩, ?_⟩
    rw [← statements_of_calls hopening.calls_eq, statements, statements,
      calls_of_handles hopening.handles]
    rfl
  cases h with
  | answered hopening _ =>
    obtain ⟨hconnected, hstatements⟩ := hsent hopening
    refine .inr ⟨_, hconnected, hstatements, ?_⟩
    rintro _ ⟨⟩
  | refused hopening _ =>
    obtain ⟨hconnected, hstatements⟩ := hsent hopening
    refine .inr ⟨_, hconnected, hstatements, ?_⟩
    rintro _ ⟨⟩
    exact ⟨_, rfl⟩
  | unopened hopening =>
    exact .inl ⟨_, rfl, hopening.isFatal, hopening.unavailable_of_error,
      statements_of_calls hopening.calls_eq⟩

/-- A database is connected to one backend. -/
lemma Connected.unique {b' : Backend} (h : db.Connected b) (h' : db.Connected b') : b' = b := by
  obtain ⟨handles, hhandles, rfl⟩ := h
  obtain ⟨handles', hhandles', rfl⟩ := h'
  obtain rfl : handles = handles' := by simpa [hhandles] using hhandles'
  rfl

/-- On a connection a statement of the backend is one for that backend. -/
lemma Answered.of_connected {since : List Call} {rows : List Row}
    (h : Answered since db statement rows) (hdb : db.Connected b) :
    Answered since db (fun _ => statement b) rows := by
  obtain ⟨handles, earlier, hhandles, hanswered⟩ := h
  obtain rfl := hdb.unique ⟨handles, hhandles, rfl⟩
  exact ⟨handles, earlier, hhandles, hanswered⟩

/-- A connected database is not an unavailable one. -/
lemma Connected.not_unavailable (h : db.Connected b) : ¬ db.Unavailable := by
  rintro ⟨reason, hreason⟩
  obtain ⟨handles, hhandles, -⟩ := h
  simp [hhandles] at hreason

/-- To ask on a connection sends the statement, and fails at most as a query. -/
lemma Asking.of_connected (h : Asking db statement o db') (hdb : db.Connected b) :
    db'.Connected b ∧ db'.statements = statement b :: db.statements ∧
      ∀ e, o = .error e → ∃ cause, e = .query (statement b) cause := by
  have hconnected := hdb.extends h.extends
  obtain ⟨_, -, -, hunavailable, -⟩ | ⟨b', hb', hsent⟩ := h.unavailable_or_sent
  · exact absurd hunavailable hconnected.not_unavailable
  · obtain rfl := hconnected.unique hb'
    exact ⟨hb', hsent⟩

/-- To ask without a connection fails and sends nothing. -/
lemma Asking.of_unavailable (h : Asking db statement o db') (hdb : db.Unavailable) :
    (∃ e, o = .error e) ∧ db'.statements = db.statements := by
  have hunavailable := hdb.extends h.extends
  obtain ⟨e, ho, -, -, hstatements⟩ | ⟨b, hb, -⟩ := h.unavailable_or_sent
  · exact ⟨⟨e, ho⟩, hstatements⟩
  · exact absurd hunavailable hb.not_unavailable

end Database

namespace RecordSetOf
variable {s s' : Focus RecordSet} {offset : Nat} {e : Error}

/-- How it can fail to look a record up: in counting, in loading a page of the rows counted before, or in
loading one once the rows are counted. -/
inductive Interrupted (s : Focus RecordSet) (offset : Nat) : Error → Focus RecordSet → Prop
  | counting {e db} :
    s.self.total = none →
    Asking s.database s.self.countStatement (.error e) db →
    Interrupted s offset e ⟨s.self, db⟩
  | loading {total e db} :
    s.self.total = some total →
    offset < total →
    s.self.page.map Page.index ≠ some (offset / s.self.pageSize) →
    Asking s.database (s.self.pageStatement (offset / s.self.pageSize)) (.error e) db →
    Interrupted s offset e ⟨s.self, db⟩
  | counted {rows db₁ e db} :
    s.self.total = none →
    s.self.page = none →
    Asking s.database s.self.countStatement (.ok rows) db₁ →
    offset < countOf rows →
    Asking db₁ (s.self.pageStatement (offset / s.self.pageSize)) (.error e) db →
    Interrupted s offset e ⟨{ s.self with total := some (countOf rows), page := none }, db⟩

/-- A look-up fails in one of three ways, if no page is kept while the number of rows is unknown. -/
lemma interrupted_of_runs (hcounted : s.self.page.isSome → s.self.total.isSome)
    (h : Runs (at? offset) s (.error e) s') : Interrupted s offset e s' := by
  cases looking_of_runs h with
  | uncounted hcounting =>
    cases hcounting with
    | failed hnone hasking => exact .counting hnone hasking
  | unloaded hcounting hlt hturning =>
    cases hturning with
    | turned hother hloading =>
      cases hloading with
      | failed hasking =>
        cases hcounting with
        | known htotal => exact .loading htotal hlt hother hasking
        | counted hnone hcount =>
          have hpage : s.self.page = none := by
            cases hpage : s.self.page with
            | none => rfl
            | some page => simp [hpage, hnone] at hcounted
          exact .counted hnone hpage hcount hlt hasking

/-- A failure leaves all of a set but the number of its rows, which is unknown or known as before, or
counted just now. -/
lemma Interrupted.self_eq (h : Interrupted s offset e s') :
    s'.self = { s.self with total := s'.self.total } ∧
      (s'.self.total = s.self.total ∨
        s.self.total = none ∧ ∃ rows,
          Answered s.database.calls s'.database s.self.countStatement rows ∧
            s'.self.total = some (countOf rows)) := by
  cases h with
  | counting _ _ => exact ⟨rfl, .inl rfl⟩
  | loading _ _ _ _ => exact ⟨rfl, .inl rfl⟩
  | @counted rows _ _ _ hnone hpage hcount _ hload =>
    refine ⟨?_, .inr ⟨hnone, rows, ?_, rfl⟩⟩
    · obtain ⟨⟨_, _, _, _, _, _, _, page⟩, _⟩ := s
      obtain rfl : page = none := hpage
      rfl
    · exact (hcount.answered_since List.suffix_rfl).extends hload.extends

/-- A call that failed can be repeated, whatever was done with the database since: of the statements that
it sent all were answered but the one that failed, if any, and now this is the first, and those that
were answered are not sent again. -/
def Resumes {α : Type} (op : Access (Focus RecordSet) α) (s : Focus RecordSet) (e : Error)
    (s' : Focus RecordSet) : Prop :=
  ∃ failed answered : List String,
    s'.database.statements = failed ++ answered ++ s.database.statements ∧
      (∀ sql ∈ answered, ∃ rows, Answered s.database.calls s'.database (fun _ => sql) rows) ∧
      ((∃ sql cause, e = .query sql cause ∧ failed = [sql]) ∨
        e.isFatal = true ∧ failed = [] ∧ answered = []) ∧
      ∀ db r s'', Extends s'.database db → Runs op ⟨s'.self, db⟩ r s'' → ∃ later,
        s''.database.statements = later ++ failed ++ db.statements ∧
          (∀ sql ∈ later ++ failed, ¬ sql ∈ answered) ∧ (failed = [] → later = [])

/-- To turn a page extends the database. -/
lemma Turning.extends {r : Except Error Unit} (h : Turning s offset r s') :
    Extends s.database s'.database := by
  cases h with
  | kept _ => exact .refl _
  | turned _ hloading =>
    cases hloading with
    | loaded hasking => exact hasking.extends
    | failed hasking => exact hasking.extends

/-- A look-up counts the rows and turns to the page of the place, if that counts. The record that it then
keeps on the page changes neither the number of the rows nor the database. -/
lemma Looking.phases {r : Except Error (Option Record)} (h : Looking s offset r s') :
    ∃ o s₁, Counting s o s₁ ∧
      ((∀ total, o = .ok total → total ≤ offset) ∧ s' = s₁ ∨
        ∃ total o' s₂, o = .ok total ∧ Turning s₁ offset o' s₂ ∧ s'.self.total = s₂.self.total ∧
          s'.database = s₂.database) := by
  cases h with
  | uncounted hcounting => exact ⟨_, _, hcounting, .inl ⟨nofun, rfl⟩⟩
  | beyond hcounting hle =>
    refine ⟨_, _, hcounting, .inl ⟨?_, rfl⟩⟩
    rintro _ ⟨⟩
    exact hle
  | unloaded hcounting _ hturning => exact ⟨_, _, hcounting, .inr ⟨_, _, _, rfl, hturning, rfl, rfl⟩⟩
  | missing hcounting _ hturning _ => exact ⟨_, _, hcounting, .inr ⟨_, _, _, rfl, hturning, rfl, rfl⟩⟩
  | found hcounting _ hturning _ => exact ⟨_, _, hcounting, .inr ⟨_, _, _, rfl, hturning, rfl, rfl⟩⟩

/-- Rows that were not counted are counted before anything else is sent. -/
lemma asking_of_looking {r : Except Error (Option Record)} (h : Looking s offset r s')
    (hnone : s.self.total = none) :
    ∃ o db, Asking s.database s.self.countStatement o db ∧ Extends db s'.database ∧
      ∀ e, o = .error e → s'.database = db := by
  obtain ⟨o, s₁, hcounting, hrest⟩ := h.phases
  cases hcounting with
  | known htotal => simp [hnone] at htotal
  | counted _ hasking =>
    refine ⟨_, _, hasking, ?_, nofun⟩
    obtain ⟨-, rfl⟩ | ⟨_, _, _, -, hturning, -, hdatabase⟩ := hrest
    · exact .refl _
    · exact hdatabase ▸ hturning.extends
  | failed _ hasking =>
    obtain ⟨-, rfl⟩ | ⟨_, _, _, ⟨⟩, -⟩ := hrest
    exact ⟨_, _, hasking, .refl _, fun _ _ => rfl⟩

/-- Of rows that were counted a page is loaded unless it is kept, and nothing else is sent. -/
lemma loading_of_looking {r : Except Error (Option Record)} {total : Nat}
    (h : Looking s offset r s') (htotal : s.self.total = some total) (hlt : offset < total)
    (hother : s.self.page.map Page.index ≠ some (offset / s.self.pageSize)) :
    ∃ o, Asking s.database (s.self.pageStatement (offset / s.self.pageSize)) o s'.database := by
  obtain ⟨o, s₁, hcounting, hrest⟩ := h.phases
  cases hcounting with
  | counted hnone _ => simp [hnone] at htotal
  | failed hnone _ => simp [hnone] at htotal
  | known hknown =>
    obtain rfl := Option.some.inj (hknown.symm.trans htotal)
    obtain ⟨hbeyond, -⟩ | ⟨_, _, _, -, hturning, -, hdatabase⟩ := hrest
    · exact absurd (hbeyond _ rfl) (Nat.not_le.2 hlt)
    rw [hdatabase]
    cases hturning with
    | kept hkept => exact absurd hkept hother
    | turned _ hloading =>
      cases hloading with
      | loaded hasking => exact ⟨_, hasking⟩
      | failed hasking => exact ⟨_, hasking⟩

/-- A call that failed by its first statement sends that one first when it is repeated. -/
lemma resumes_of_asking {statement : Backend → String} {set : RecordSet} {db : Database}
    (hasking : Asking s.database statement (.error e) db)
    (hrepeat : ∀ db₁ r s', Runs (at? offset) ⟨set, db₁⟩ r s' → ∃ o db₂,
      Asking db₁ statement o db₂ ∧ Extends db₂ s'.database ∧ ∀ e, o = .error e → s'.database = db₂) :
    Resumes (at? offset) s e ⟨set, db⟩ := by
  obtain ⟨_, ⟨⟩, hfatal, hunavailable, hstatements⟩ | ⟨b, hconnected, hstatements, hquery⟩ :=
    hasking.unavailable_or_sent
  · refine ⟨[], [], hstatements, nofun, .inr ⟨hfatal, rfl, rfl⟩, ?_⟩
    intro db₁ r s' hextends hrun
    obtain ⟨o, db₂, hasked, -, herror⟩ := hrepeat db₁ r s' hrun
    obtain ⟨⟨e', ho⟩, hsame⟩ := hasked.of_unavailable (hunavailable.extends hextends)
    exact ⟨[], (herror e' ho) ▸ hsame, nofun, fun _ => rfl⟩
  · obtain ⟨cause, he⟩ := hquery e rfl
    refine ⟨[statement b], [], hstatements, nofun, .inl ⟨_, cause, he, rfl⟩, ?_⟩
    intro db₁ r s' hextends hrun
    obtain ⟨o, db₂, hasked, hlater, -⟩ := hrepeat db₁ r s' hrun
    obtain ⟨-, hsent, -⟩ := hasked.of_connected (hconnected.extends hextends)
    obtain ⟨later, hlater⟩ := hlater.statements
    refine ⟨later, ?_, fun _ _ => List.not_mem_nil, nofun⟩
    rw [← hlater, hsent, List.append_assoc]
    rfl

/-- A look-up that failed is taken up by the same call where it failed. -/
theorem resumes_of_interrupted (h : Interrupted s offset e s') : Resumes (at? offset) s e s' := by
  cases h with
  | counting hnone hasking =>
    apply resumes_of_asking hasking
    intro db₁ r s' hrun
    exact asking_of_looking (looking_of_runs hrun) hnone
  | loading htotal hlt hother hasking =>
    apply resumes_of_asking hasking
    intro db₁ r s' hrun
    obtain ⟨o, hasked⟩ := loading_of_looking (looking_of_runs hrun) htotal hlt hother
    exact ⟨o, _, hasked, .refl _, fun _ _ => rfl⟩
  | @counted rows db₁ _ db hnone hpage hcount hlt hload =>
    obtain ⟨_, ⟨⟩, -⟩ | ⟨b, hconnected, hcounted, -⟩ := hcount.unavailable_or_sent
    obtain ⟨hconnected', hloaded, hquery⟩ := hload.of_connected hconnected
    obtain ⟨cause, he⟩ := hquery e rfl
    refine ⟨[s.self.pageStatement (offset / s.self.pageSize) b], [s.self.countStatement b], ?_, ?_,
      .inl ⟨_, cause, he, rfl⟩, ?_⟩
    · rw [hloaded, hcounted]
      rfl
    · intro sql hsql
      rw [List.mem_singleton.1 hsql]
      have hanswered := (hcount.answered_since List.suffix_rfl).extends hload.extends
      exact ⟨rows, hanswered.of_connected hconnected'⟩
    · intro db₂ r s' hextends hrun
      obtain ⟨o, hasked⟩ := loading_of_looking (looking_of_runs hrun) rfl hlt nofun
      obtain ⟨-, hsent, -⟩ := hasked.of_connected (hconnected'.extends hextends)
      refine ⟨[], hsent, ?_, nofun⟩
      intro sql hsql hcount
      rw [List.nil_append, List.mem_singleton] at hsql
      rw [List.mem_singleton, hsql] at hcount
      exact Sql.pageSql_ne_countSql _ _ _ _ _ _ _ hcount

end RecordSetOf
end RecordAccess
