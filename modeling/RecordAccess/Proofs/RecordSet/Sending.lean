import RecordAccess.Proofs.Record.Running
import RecordAccess.Proofs.Use.Extension

/-!
# What is sent for the rows of a set

To take the rows of a set sends the statement that counts them, those that fetch its pages, and those
that fetch a row by its identity, and no others (`keeps_sending_takeRows`). The one that counts is the
first, if any row is wanted of a set that has not been counted (`counted_of_takeRows`).
-/

namespace RecordAccess
open Access Database

namespace Database
variable {b : Backend} {P : String → Prop} {db db' : Database}

/-- A database on a connection to a backend, that has sent nothing but some statements. -/
structure Sends (b : Backend) (P : String → Prop) (db : Database) : Prop where
  handles : ∃ handles, db.handles = some (.ok handles) ∧ handles.backend = b
  log : ∀ sql ∈ db.log, P sql

/-- To ask sends the statement for the backend of the connection. -/
lemma Asking.log_eq {statement : Backend → String} {r : Except Error (List Row)}
    (h : Asking db statement r db')
    (hdb : ∃ handles, db.handles = some (.ok handles) ∧ handles.backend = b) :
    (∃ handles, db'.handles = some (.ok handles) ∧ handles.backend = b) ∧
      db'.log = statement b :: db.log := by
  obtain ⟨handles, hhandles, rfl⟩ := hdb
  cases h with
  | answered hopening _ =>
    obtain ⟨hgot, rfl⟩ := hopening.known hhandles
    cases hgot
    exact ⟨⟨_, rfl, rfl⟩, rfl⟩
  | refused hopening _ =>
    obtain ⟨hgot, rfl⟩ := hopening.known hhandles
    cases hgot
    exact ⟨⟨_, rfl, rfl⟩, rfl⟩
  | unopened hopening => cases (hopening.known hhandles).1

/-- To ask adds one of the allowed statements to those sent. -/
lemma Asking.sends {statement : Backend → String} {r : Except Error (List Row)}
    (h : Asking db statement r db') (hdb : db.Sends b P) (hstatement : P (statement b)) :
    db'.Sends b P := by
  obtain ⟨hhandles, hlog⟩ := h.log_eq hdb.handles
  refine ⟨hhandles, ?_⟩
  rw [hlog]
  exact List.forall_mem_cons.2 ⟨hstatement, hdb.log⟩

end Database

/-- To look at a record sends the statement that fetches its row, if any. -/
lemma Record.keeps_sends_hydrated {b : Backend} {P : String → Prop} {α : Type}
    (hrecord : ∀ table id, P (recordSql b table id)) (look : Record → α) :
    Keeps (fun s : Focus Record => s.database.Sends b P)
      (do hydrate; return look (← Focus.getSelf)) := by
  refine keeps_bind ?_ fun _ => keeps_bind (keeps_bind keeps_get fun _ => keeps_pure _)
    fun _ => keeps_pure _
  intro s r s' hs h
  cases hydrating_of_runs h with
  | known _ => exact hs
  | received _ hasking => exact hasking.sends hs (hrecord _ _)
  | failed _ hasking => exact hasking.sends hs (hrecord _ _)

namespace RecordSetOf

/-- The statements that are sent for the rows of a set. -/
inductive Statement (set : RecordSet) (b : Backend) : String → Prop where
  | count : Statement set b (set.countStatement b)
  | page (index : Nat) : Statement set b (set.pageStatement index b)
  | record (table : String) (id : Int64) : Statement set b (recordSql b table id)

/-- A set of a specification, for which nothing but statements of its own were sent. -/
structure Sending (set : RecordSet) (b : Backend) (s : Focus RecordSet) : Prop where
  same : s.self.invalidate = set.invalidate
  sends : s.database.Sends b (Statement set b)

section Sending
variable {set : RecordSet} {b : Backend} {s s' : Focus RecordSet}

/-- To count sends nothing but the statement of the set for that. -/
lemma sending_of_counting {r : Except Error Nat} (h : Sending set b s)
    (hcounting : Counting s r s') : Sending set b s' := by
  have hstatement : Statement set b (s.self.countStatement b) :=
    countStatement_congr h.same ▸ .count
  cases hcounting with
  | known _ => exact h
  | counted _ hasking => exact ⟨h.same, hasking.sends h.sends hstatement⟩
  | failed _ hasking => exact ⟨h.same, hasking.sends h.sends hstatement⟩

/-- To turn a page sends nothing but statements of the set. -/
lemma sending_of_turning {offset : Nat} {r : Except Error Unit} (h : Sending set b s)
    (hturning : Turning s offset r s') : Sending set b s' := by
  have hstatement (index : Nat) : Statement set b (s.self.pageStatement index b) :=
    pageStatement_congr h.same ▸ .page index
  cases hturning with
  | kept _ => exact h
  | turned _ hloading =>
    cases hloading with
    | loaded hasking => exact ⟨h.same, hasking.sends h.sends (hstatement _)⟩
    | failed hasking => exact ⟨h.same, hasking.sends h.sends (hstatement _)⟩

/-- To look up a record sends nothing but statements of the set. -/
lemma sending_of_looking {offset : Nat} {r : Except Error (Option Record)} (h : Sending set b s)
    (hlooking : Looking s offset r s') : Sending set b s' := by
  cases hlooking with
  | uncounted hcounting => exact sending_of_counting h hcounting
  | beyond hcounting _ => exact sending_of_counting h hcounting
  | unloaded hcounting _ hturning =>
    exact sending_of_turning (sending_of_counting h hcounting) hturning
  | missing hcounting _ hturning _ =>
    exact sending_of_turning (sending_of_counting h hcounting) hturning
  | found hcounting _ hturning _ =>
    have h' := sending_of_turning (sending_of_counting h hcounting) hturning
    exact ⟨h'.same, h'.sends⟩

/-- To read a row sends nothing but the statement that fetches it. -/
lemma keeps_sending_itemRow (item : Except Error Record) :
    Keeps (Sending set b) (Focus.onDatabase (itemRow item)) := by
  have hitem : Keeps (Sends b (Statement set b)) (itemRow item) := by
    cases item with
    | ok record =>
      exact keeps_zoom (fun _ hdb => hdb) (fun _ _ _ ht => ht)
        (Record.keeps_sends_hydrated .record Record.effectiveRow)
    | error e => exact keeps_throw e
  exact keeps_zoom (fun _ hs => hs.sends) (fun _ _ hs ht => ⟨hs.same, ht⟩) hitem

/-- To take the rows of a set sends nothing but statements of its own. -/
lemma keeps_sending_takeRows (limit : Option Nat) : Keeps (Sending set b) (takeRows limit) :=
  keeps_takeRows (fun _ _ _ hs h => sending_of_counting hs (counting_of_runs h))
    (fun _ _ _ _ hs h => sending_of_looking hs (looking_of_runs h)) keeps_sending_itemRow limit

/-- The rows that are wanted are counted before anything else is sent. -/
lemma counted_of_takeRows {limit : Option Nat} {r : Except Error (List Row)} (hlimit : limit ≠ some 0)
    (hcount : s.self.total = none)
    (hhandles : ∃ handles, s.database.handles = some (.ok handles) ∧ handles.backend = b)
    (h : Runs (takeRows limit) s r s') :
    (s.self.countStatement b :: s.database.log) <:+ s'.database.log := by
  have hcounted {o : Except Error Nat} {s₁ : Focus RecordSet} (hrun : Runs count s o s₁) :
      s₁.database.log = s.self.countStatement b :: s.database.log := by
    cases counting_of_runs hrun with
    | known hknown => simp [hcount] at hknown
    | counted _ hasking => exact (hasking.log_eq hhandles).2
    | failed _ hasking => exact (hasking.log_eq hhandles).2
  rw [takeRows_eq hlimit] at h
  obtain ⟨e, rfl, hrun⟩ | ⟨total, s₁, hrun, hrest⟩ := runs_bind.1 h
  · rw [hcounted hrun]
  · rw [← hcounted hrun]
    exact ((composed_walk rfl _).keeps s₁ r s' (.refl s₁.database) hrest).log

end Sending
end RecordSetOf
end RecordAccess
