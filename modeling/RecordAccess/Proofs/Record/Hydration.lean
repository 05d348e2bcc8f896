import Mathlib.Tactic.Common
import RecordAccess.Proofs.Record.Running

/-!
# Fetching a row at most once

What an operation on a record sends is told by `Sending`: nothing, or the statement for the row, which
the driver refuses or answers. From it comes the phase that a record is in (`Phase`): whole from the
start, waiting for an answer, or settled by the one answer that there was. An operation takes a record
from phase to phase (`Phase.sending`), and so a history does (`phase_of_history`).

`fetchedOnce_of_history` reads off what this means for the next operation.
-/

namespace RecordAccess
open Access Database

namespace Record

namespace Origin

/-- The identity that a record is made of, zero if it is no integer. -/
def identity (origin : Origin) : Int64 := ((origin.known.get? idName).bind Value.asInt?).getD 0

/-- The statement that fetches the row of a record made in a table. -/
def statement (origin : Origin) (table : String) (b : Backend) : String :=
  recordSql b (lowercase table) origin.identity

/-- Whether a record is made of its identity and more. -/
def IsWhole (origin : Origin) : Prop := origin.known.contains idName ∧ 1 < origin.known.size

end Origin

section Made
variable {r : Record} {table : String} {origin : Origin}

/-- A row with the identity has one column if it has no other. -/
lemma size_eq_one_iff {row : Row} (h : row.contains idName = true) :
    row.size = 1 ↔ row.keys = [idName] := by
  rw [OrderedMap.size, ← List.length_map Prod.fst]
  constructor
  · intro hlength
    obtain ⟨name, hkeys⟩ := List.length_eq_one_iff.1 hlength
    have hmem : idName ∈ row.keys := (row.mem_keys_iff idName).2 h
    rw [OrderedMap.keys, hkeys] at hmem
    rw [OrderedMap.keys, hkeys, List.mem_singleton.1 hmem]
  · intro hkeys
    rw [show row.entries.map Prod.fst = [idName] from hkeys]
    rfl

/-- A row of the identity alone has the identity. -/
lemma contains_of_keys {row : Row} (h : row.keys = [idName]) : row.contains idName = true := by
  rw [← row.mem_keys_iff, h]
  exact List.mem_singleton_self _

/-- A record waits for its row if nothing but the identity is known, and the row was not fetched. -/
lemma isLazy_iff : r.isLazy = true ↔ r.fetched = false ∧ r.persisted.keys = [idName] := by
  simp only [isLazy, Bool.and_eq_true, Bool.not_eq_true', beq_iff_eq, and_assoc]
  apply and_congr_right
  intro _
  constructor
  · rintro ⟨hsize, hid⟩
    exact (size_eq_one_iff hid).1 hsize
  · intro hkeys
    have hid := contains_of_keys hkeys
    exact ⟨(size_eq_one_iff hid).2 hkeys, hid⟩

/-- The row of a record is fetched by the statement for what the record is made of. -/
lemma rowStatement_make : (origin.make table).rowStatement = origin.statement table := by
  rw [Origin.make_eq]
  have hid : (ofRow table origin.known).fetchId = origin.identity := by
    unfold fetchId ofRow ofPersisted Origin.identity
    cases hcontains : origin.known.contains idName with
    | true => rfl
    | false =>
      have hnone : origin.known.get? idName = none := by
        simpa [OrderedMap.contains] using hcontains
      rw [hnone]
      rfl
  unfold rowStatement
  rw [hid]
  rfl

/-- A record that is made of a row without identity has none. -/
lemma persisted_make : (origin.make table).persisted =
    if origin.known.contains idName then origin.known else .empty := by
  rw [Origin.make_eq]
  rfl

/-- A record waits for its row from the start if it is made of its identity alone. -/
lemma isLazy_make : (origin.make table).isLazy = true ↔ origin.known.keys = [idName] := by
  rw [isLazy_iff, Origin.make_eq]
  unfold ofRow ofPersisted
  cases hcontains : origin.known.contains idName with
  | true => simp [size_eq_one_iff hcontains]
  | false =>
    have hkeys : origin.known.keys ≠ [idName] := by
      intro h
      rw [contains_of_keys h] at hcontains
      cases hcontains
    simp [hkeys, OrderedMap.size, OrderedMap.empty]

/-- A record is found from the start if it is made of its identity and more. -/
lemma found_make : (origin.make table).found = true ↔ origin.IsWhole := by
  rw [Origin.make_eq]
  unfold ofRow ofPersisted Origin.IsWhole
  cases hcontains : origin.known.contains idName with
  | true =>
    have hmem : idName ∈ origin.known.entries.map Prod.fst :=
      (origin.known.mem_keys_iff idName).2 hcontains
    have hne : origin.known.entries ≠ [] := by
      intro hnil
      rw [hnil] at hmem
      cases hmem
    have hpos : 0 < origin.known.size := List.length_pos_iff.2 hne
    simp only [if_true, Bool.and_eq_true, bne_iff_ne, Bool.not_eq_true', true_and,
      OrderedMap.isEmpty, List.isEmpty_eq_false_iff]
    constructor
    · rintro ⟨hsize, -⟩
      omega
    · intro hsize
      exact ⟨by omega, hne⟩
  | false => simp [OrderedMap.isEmpty, OrderedMap.empty]

end Made

/-- The driver replied to the statement, which was sent in the course of an operation. -/
def Event.Got (e : Event) (statement : Backend → String) (reply : Except String (List Row)) : Prop :=
  Replied e.before.calls e.after statement reply

/-- An operation sends nothing, or the statement for the row of the record. -/
inductive Sending (r : Record) (e : Event) : Record → Prop where
  | quiet {r'} :
    e.after.statements = e.before.statements →
    r'.stored = r.stored →
    (r.isLazy = true → r' = r) →
    (∀ error, e.outcome = .error error → r' = r) →
    (r.isLazy = true → e.operation.needsRow = true →
      ∃ error, e.outcome = .error error ∧ Opening e.before (.error error) e.after) →
    Sending r e r'
  | refused {b cause} :
    r.isLazy = true →
    e.after.statements = r.rowStatement b :: e.before.statements →
    (∀ reply, e.Got r.rowStatement reply ↔ .error cause = reply) →
    e.outcome = .error (.query (r.rowStatement b) cause) →
    Sending r e r
  | answered {b rows r'} :
    r.isLazy = true →
    e.after.statements = r.rowStatement b :: e.before.statements →
    (∀ reply, e.Got r.rowStatement reply ↔ .ok rows = reply) →
    e.outcome = .ok () →
    r'.stored = (r.received rows).stored →
    Sending r e r'

/-- What an operation does sends nothing, or the statement for the row. -/
lemma sending_of_doing {op : Operation} {s s' : Focus Record} {outcome : Except Error Unit}
    (h : Doing op s outcome s') :
    Sending s.self ⟨op, s.database, outcome, s'.database⟩ s'.self := by
  cases h with
  | described hneeds hdescribing =>
    refine .quiet hdescribing.statements rfl (fun _ => rfl) (fun _ _ => rfl) ?_
    intro _ hneeds'
    rw [hneeds] at hneeds'
    cases hneeds'
  | acted hdb hdescribing hacting =>
    cases hacting with
    | failed hhydrate =>
      cases hydrating_of_runs hhydrate with
      | failed hlazy hasking =>
        obtain ⟨e, he, hopening, hstatements⟩ | ⟨b, reply, he, hstatements, hgot⟩ :=
          hasking.unopened_or_sent hdescribing
        · refine .quiet hstatements rfl (fun _ => rfl) (fun _ _ => rfl) ?_
          intro _ hneeds
          rw [hdb hneeds] at hopening
          cases he
          exact ⟨_, rfl, hopening⟩
        · cases reply with
          | ok rows => cases he
          | error cause =>
            cases he
            exact .refused hlazy hstatements hgot rfl
    | done hhydrate =>
      cases hydrating_of_runs hhydrate with
      | known hlazy =>
        refine .quiet hdescribing.statements (stored_effect op s.self) ?_ nofun ?_
        · intro hwaiting
          rw [hlazy] at hwaiting
          cases hwaiting
        · intro hwaiting _
          rw [hlazy] at hwaiting
          cases hwaiting
      | received hlazy hasking =>
        obtain ⟨e, he, -⟩ | ⟨b, reply, he, hstatements, hgot⟩ :=
          hasking.unopened_or_sent hdescribing
        · cases he
        · cases reply with
          | ok rows =>
            cases he
            exact .answered hlazy hstatements hgot rfl (stored_effect op _)
          | error cause => cases he

/-- An operation sends nothing, or the statement for the row of its record. -/
lemma sending_of_runs {e : Event} {r r' : Record}
    (h : Runs e.operation.run ⟨r, e.before⟩ e.outcome ⟨r', e.after⟩) : Sending r e r' :=
  sending_of_doing (doing_of_runs h)

/-- An operation sends at most the statement for the row, once, and only if that is to be fetched. -/
lemma Sending.statements {r r' : Record} {e : Event} (h : Sending r e r') :
    e.after.statements = e.before.statements ∨
      r.isLazy = true ∧ ∃ b, e.after.statements = r.rowStatement b :: e.before.statements := by
  cases h with
  | quiet hstatements _ _ _ _ => exact .inl hstatements
  | refused hlazy hstatements _ _ => exact .inr ⟨hlazy, _, hstatements⟩
  | answered hlazy hstatements _ _ _ => exact .inr ⟨hlazy, _, hstatements⟩

/-- A failure leaves the record as it was. -/
lemma Sending.self_eq {r r' : Record} {e : Event} {error : Error} (h : Sending r e r')
    (herror : e.outcome = .error error) : r' = r := by
  cases h with
  | quiet _ _ _ hfails _ => exact hfails error herror
  | refused _ _ _ _ => rfl
  | answered _ _ _ hok _ =>
    rw [hok] at herror
    cases herror

/-- A refusal by the driver is the outcome. -/
lemma Sending.outcome_of_refused {r r' : Record} {e : Event} {cause : String} (h : Sending r e r')
    (hgot : e.Got r.rowStatement (.error cause)) :
    ∃ b, e.outcome = .error (.query (r.rowStatement b) cause) := by
  cases h with
  | quiet hstatements _ _ _ _ => exact absurd hgot (not_replied_of_statements hstatements)
  | refused _ _ hreply houtcome =>
    cases (hreply _).1 hgot
    exact ⟨_, houtcome⟩
  | answered _ _ hreply _ _ => cases (hreply _).1 hgot

/-- A row that is to be fetched and needed is asked for, if there is a connection. -/
lemma Sending.asked {r r' : Record} {e : Event} (h : Sending r e r') (hlazy : r.isLazy = true)
    (hneeds : e.operation.needsRow = true) :
    (∃ b, e.after.statements = r.rowStatement b :: e.before.statements) ∨
      ∃ error, e.outcome = .error error ∧ Opening e.before (.error error) e.after := by
  cases h with
  | quiet _ _ _ _ hunopened => exact .inr (hunopened hlazy hneeds)
  | refused _ hstatements _ _ => exact .inl ⟨_, hstatements⟩
  | answered _ hstatements _ _ _ => exact .inl ⟨_, hstatements⟩

/-- The statement for the row of a record was answered with some rows. -/
def GotRows (table : String) (origin : Origin) (events : List Event) (rows : List Row) : Prop :=
  ∃ e ∈ events, e.Got (origin.statement table) (.ok rows)

section Phases
variable {table : String} {origin : Origin} {events : List Event} {e : Event} {r r' : Record}

/-- Rows were got in the latest operation or in one before. -/
lemma gotRows_cons {rows : List Row} : GotRows table origin (e :: events) rows ↔
    e.Got (origin.statement table) (.ok rows) ∨ GotRows table origin events rows := by
  simp [GotRows]

/-- What a record has become: it is whole from the start, or waits for an answer, or was settled by
the one answer that there was. -/
inductive Phase (table : String) (origin : Origin) (events : List Event) (r : Record) : Prop where
  | whole :
    (origin.make table).isLazy = false →
    r.stored = (origin.make table).stored →
    (∀ rows, ¬ GotRows table origin events rows) →
    Phase table origin events r
  | waiting :
    (origin.make table).isLazy = true →
    r = origin.make table →
    (∀ rows, ¬ GotRows table origin events rows) →
    Phase table origin events r
  | settled {rows} :
    (origin.make table).isLazy = true →
    r.stored = ((origin.make table).received rows).stored →
    (∀ rows', GotRows table origin events rows' ↔ rows = rows') →
    Phase table origin events r

/-- A record that waits for its row is as it was made, and got no rows yet. -/
lemma Phase.waiting_of_isLazy (h : Phase table origin events r) (hlazy : r.isLazy = true) :
    r = origin.make table ∧ ∀ rows, ¬ GotRows table origin events rows := by
  cases h with
  | whole hmade hstored _ =>
    rw [isLazy_of_stored hstored, hmade] at hlazy
    cases hlazy
  | waiting _ hr hnone => exact ⟨hr, hnone⟩
  | settled _ hstored _ =>
    rw [isLazy_of_stored hstored, isLazy_received] at hlazy
    cases hlazy

/-- A record made of its identity waits as long as no answer was had. -/
lemma Phase.eq_make_of_waiting (h : Phase table origin events r)
    (hmade : (origin.make table).isLazy = true)
    (hnone : ∀ rows, ¬ GotRows table origin events rows) : r = origin.make table := by
  cases h with
  | whole hwhole _ _ =>
    rw [hmade] at hwhole
    cases hwhole
  | waiting _ hr _ => exact hr
  | @settled rows _ _ hrows => exact absurd ((hrows rows).2 rfl) (hnone rows)

/-- An operation that sends nothing leaves a record in its phase. -/
lemma Phase.quiet (h : Phase table origin events r)
    (hstatements : e.after.statements = e.before.statements) (hstored : r'.stored = r.stored)
    (hlazy : r.isLazy = true → r' = r) : Phase table origin (e :: events) r' := by
  have hgot (reply) : ¬ e.Got (origin.statement table) reply := not_replied_of_statements hstatements
  have hanswered (rows) : GotRows table origin (e :: events) rows ↔
      GotRows table origin events rows := by
    rw [gotRows_cons, or_iff_right (hgot _)]
  cases h with
  | whole hmade hr hnone =>
    refine .whole hmade (hstored.trans hr) ?_
    intro rows
    rw [hanswered]
    exact hnone rows
  | waiting hmade hr hnone =>
    refine .waiting hmade ?_ ?_
    · rw [hlazy (hr ▸ hmade), hr]
    · intro rows
      rw [hanswered]
      exact hnone rows
  | settled hmade hr hrows =>
    refine .settled hmade (hstored.trans hr) ?_
    intro rows'
    rw [hanswered]
    exact hrows rows'

/-- An operation takes a record from phase to phase. -/
lemma Phase.sending (h : Phase table origin events r) (hsending : Sending r e r') :
    Phase table origin (e :: events) r' := by
  cases hsending with
  | quiet hstatements hstored hlazy _ _ => exact h.quiet hstatements hstored hlazy
  | refused hlazy _ hgot _ =>
    obtain ⟨rfl, hnone⟩ := h.waiting_of_isLazy hlazy
    refine .waiting hlazy rfl ?_
    intro rows
    rw [gotRows_cons, ← rowStatement_make, hgot]
    rintro (hreply | hbefore)
    · cases hreply
    · exact hnone rows hbefore
  | answered hlazy _ hgot _ hstored =>
    obtain ⟨rfl, hnone⟩ := h.waiting_of_isLazy hlazy
    refine .settled hlazy hstored ?_
    intro rows'
    rw [gotRows_cons, ← rowStatement_make, hgot, or_iff_left (hnone rows'), Except.ok.injEq]

/-- A record begins whole or waiting. -/
lemma phase_make : Phase table origin [] (origin.make table) := by
  have hnone (rows) : ¬ GotRows table origin [] rows := by simp [GotRows]
  cases hlazy : (origin.make table).isLazy with
  | false => exact .whole hlazy rfl hnone
  | true => exact .waiting hlazy rfl hnone

/-- After any operations a record is in one of the phases. -/
lemma phase_of_history (h : History (origin.make table) events r) :
    Phase table origin events r := by
  induction h with
  | start => exact phase_make
  | @step events r op db outcome r' db' _ hrun ih =>
    exact ih.sending (sending_of_runs (e := ⟨op, db, outcome, db'⟩) hrun)

/-- A stored row is found where it was given, or where an answer had one. -/
lemma Phase.found_iff (h : Phase table origin events r) :
    r.found = true ↔
      origin.IsWhole ∨ ∃ row rows, GotRows table origin events (row :: rows) := by
  have hnotWhole (hmade : (origin.make table).isLazy = true) : ¬ (origin.make table).found = true := by
    rw [found_make]
    rintro ⟨hid, hsize⟩
    rw [(size_eq_one_iff hid).2 (isLazy_make.1 hmade)] at hsize
    exact Nat.lt_irrefl _ hsize
  cases h with
  | whole _ hstored hnone =>
    rw [found_of_stored hstored, found_make]
    exact (or_iff_left fun ⟨row, rows, h⟩ => hnone _ h).symm
  | waiting hmade hr hnone =>
    rw [hr, ← @found_make table]
    exact (or_iff_left fun ⟨row, rows, h⟩ => hnone _ h).symm
  | @settled rows hmade hstored hrows =>
    rw [found_of_stored hstored, ← @found_make table, or_iff_right (hnotWhole hmade)]
    cases rows with
    | nil => simpa [received, hrows] using hnotWhole hmade
    | cons row rows => simp [received, hrows]

/-- Whether a record is found is asked once its row is fetched. -/
lemma found_of_runs {s s' : Focus Record} {answer : Bool} (h : Runs isFound s (.ok answer) s') :
    answer = s'.self.found := by
  cases (fetches_look Record.found).runs s _ s' h with
  | done _ => rfl

/-- An answer gives the stored row; where it has none, the identity is all that is known. -/
lemma Phase.persisted_of_gotRows (h : Phase table origin events r) {rows : List Row}
    (hgot : GotRows table origin events rows) :
    origin.known.keys = [idName] ∧ r.persisted = rows.headD origin.known := by
  cases h with
  | whole _ _ hnone => exact absurd hgot (hnone rows)
  | waiting _ _ hnone => exact absurd hgot (hnone rows)
  | @settled rows₀ hmade hstored hrows =>
    obtain rfl : rows₀ = rows := (hrows rows).1 hgot
    have hkeys := isLazy_make.1 hmade
    refine ⟨hkeys, (persisted_of_stored hstored).trans ?_⟩
    cases rows₀ with
    | nil => exact persisted_make.trans (if_pos (contains_of_keys hkeys))
    | cons row rows => rfl

end Phases

/-- What the next operation does about the row, after the operations before. -/
structure FetchedOnce (table : String) (origin : Origin) (events : List Event) (r : Record)
    (e : Event) (r' : Record) : Prop where
  /-- it sends nothing, or its statement, which only a record does that has its identity alone, was
  not fetched, and had no answer before -/
  sends : e.after.statements = e.before.statements ∨
    r.persisted.keys = [idName] ∧ r.fetched = false ∧
      (∀ rows, ¬ GotRows table origin events rows) ∧
      ∃ b, e.after.statements = origin.statement table b :: e.before.statements
  /-- a record that was not made of its identity alone sends nothing -/
  never : origin.known.keys ≠ [idName] → e.after.statements = e.before.statements
  /-- after a failure the record is as before -/
  fails : ∀ error, e.outcome = .error error → r' = r
  /-- a refusal by the driver is the outcome -/
  refused : ∀ cause, e.Got (origin.statement table) (.error cause) →
    ∃ b, e.outcome = .error (.query (origin.statement table b) cause)
  /-- until there is an answer, each operation that needs the row tries again, if there is a
  connection -/
  again : origin.known.keys = [idName] → (∀ rows, ¬ GotRows table origin events rows) →
    r = origin.make table ∧
      (e.operation.needsRow = true →
        (∃ b, e.after.statements = origin.statement table b :: e.before.statements) ∨
          ∃ error, e.outcome = .error error ∧ Opening e.before (.error error) e.after)
  /-- a row is found where it was given, or where an answer had one -/
  found : e.operation = .isFound →
    ∀ answer, Runs isFound ⟨r, e.before⟩ (.ok answer) ⟨r', e.after⟩ →
      (answer = true ↔
        origin.IsWhole ∨ ∃ row rows, GotRows table origin (e :: events) (row :: rows))
  /-- an answer gives the stored row; where it has none, the identity stays -/
  answered : ∀ rows, GotRows table origin (e :: events) rows →
    origin.known.keys = [idName] ∧ r'.persisted = rows.headD origin.known

/-- The row of a record is fetched at most once, under the identity that it was made with, and a
failure to do so leaves no trace: so it is for the next operation after every history. -/
theorem fetchedOnce_of_history {table : String} {origin : Origin} {events : List Event}
    {r r' : Record} {e : Event} (h : History (origin.make table) events r)
    (hrun : Runs e.operation.run ⟨r, e.before⟩ e.outcome ⟨r', e.after⟩) :
    FetchedOnce table origin events r e r' := by
  have hphase := phase_of_history h
  have hsending := sending_of_runs hrun
  have hphase' := hphase.sending hsending
  refine ⟨?sends, ?never, fun _ => hsending.self_eq, ?refused, ?again, ?found,
    fun _ => hphase'.persisted_of_gotRows⟩
  case sends =>
    apply hsending.statements.imp_right
    rintro ⟨hlazy, b, hstatements⟩
    obtain ⟨hr, hnone⟩ := hphase.waiting_of_isLazy hlazy
    obtain ⟨hfetched, hkeys⟩ := isLazy_iff.1 hlazy
    rw [hr, rowStatement_make] at hstatements
    exact ⟨hkeys, hfetched, hnone, b, hstatements⟩
  case never =>
    intro hkeys
    apply hsending.statements.resolve_right
    rintro ⟨hlazy, -⟩
    obtain ⟨rfl, -⟩ := hphase.waiting_of_isLazy hlazy
    exact hkeys (isLazy_make.1 hlazy)
  case refused =>
    intro cause hgot
    cases hsending.statements with
    | inl hstatements => exact absurd hgot (not_replied_of_statements hstatements)
    | inr hsent =>
      obtain ⟨rfl, -⟩ := hphase.waiting_of_isLazy hsent.1
      rw [← rowStatement_make] at hgot ⊢
      exact hsending.outcome_of_refused hgot
  case again =>
    intro hkeys hnone
    have hmade : (origin.make table).isLazy = true := isLazy_make.2 hkeys
    obtain rfl := hphase.eq_make_of_waiting hmade hnone
    refine ⟨rfl, ?_⟩
    rw [← rowStatement_make]
    exact hsending.asked hmade
  case found =>
    intro _ answer hanswer
    rw [found_of_runs hanswer]
    exact hphase'.found_iff

/-- The event that an operation is. -/
def Operation.event (op : Operation) (s : Focus Record) : Event :=
  ⟨op, s.database, (op.run.outcome s).1, (op.run.outcome s).2.database⟩

/-- A widget over a driver that refuses the first statement, and answers later ones with a row. -/
def waitingWidget : Focus Record where
  self := Origin.make "Widget" (.id 7)
  database := .ofDrivers
    { backend := .sqlite
      databaseName := "main"
      serverVersion := .ok "3"
      queryRows := fun history _ =>
        if history.isEmpty then .error "database is locked"
        else .ok [.ofList [("id", .int 7), ("name", .text "bolt")]]
      listTables := fun _ => .ok []
      nativeColumns := fun _ _ => .ok [] }
    none .empty .forgetful

/-- The widget after its row was refused. -/
def refusedWidget : Focus Record := afterOperations [.isFound] waitingWidget

/-- The widget after its row was then got. -/
def foundWidget : Focus Record := afterOperations [.isFound] refusedWidget

/-- The widget tries again after its row was refused, and is found. -/
theorem fetchedOnce_foundWidget :
    (∃ error, (Operation.isFound.event waitingWidget).outcome = .error error) ∧
      (Operation.isFound.event refusedWidget).outcome = .ok () ∧
      foundWidget.self.found = true ∧
      History (Origin.make "Widget" (.id 7)) [Operation.isFound.event waitingWidget]
        refusedWidget.self ∧
      FetchedOnce "Widget" (.id 7) [Operation.isFound.event waitingWidget] refusedWidget.self
        (Operation.isFound.event refusedWidget) foundWidget.self := by
  have hrefused : Runs Operation.isFound.run ⟨waitingWidget.self, waitingWidget.database⟩
      (Operation.isFound.event waitingWidget).outcome
      ⟨refusedWidget.self, (Operation.isFound.event waitingWidget).after⟩ := rfl
  have hhistory : History (Origin.make "Widget" (.id 7)) [Operation.isFound.event waitingWidget]
      refusedWidget.self := .step .start hrefused
  exact ⟨⟨_, rfl⟩, rfl, rfl, hhistory, fetchedOnce_of_history hhistory rfl⟩

end Record
end RecordAccess
