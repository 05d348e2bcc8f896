import RecordAccess.Proofs.Record.Hydration

/-!
# The identity of a record

A record is made with an identity, and the row that is fetched for it takes the place of all that was
known before, the identity included. So what was known holds of the stored row as far as it holds of the
row that was answered (`Phase.forall_answered_iff`). `keepsIdentity_iff` says so of the column of the
identity and of the number in it: a record keeps both, unless an answer lacks the column, which may be
there in other letters, or has another number in it.
-/

namespace RecordAccess
open Access Database

namespace Record
variable {table : String} {origin : Origin} {events : List Event} {r : Record}

/-- The identity in a row, zero if there is no integer. -/
def identityIn (row : Row) : Int64 := ((row.get? idName).bind Value.asInt?).getD 0

/-- Unless another identity is staged, that of the stored row counts. -/
lemma id_eq_identityIn (h : r.changes.contains idName = false) : r.id = identityIn r.persisted := by
  have hnone : r.overlay.get? idName = none := by simpa [OrderedMap.contains, changes] using h
  rw [id, current?, hnone]
  rfl

/-- A record is made with the identity that its row has. -/
lemma id_make : (origin.make table).id = identityIn (origin.make table).persisted := by
  rw [Origin.make_eq]
  exact id_eq_identityIn rfl

/-- What holds of the row that a record was made of holds of the stored row if it does of the first one
of each answer. -/
lemma Phase.forall_answered_iff (h : Phase table origin events r) {P : Row → Prop}
    (hmade : P (origin.make table).persisted) :
    P r.persisted ↔ ∀ row rows, GotRows table origin events (row :: rows) → P row := by
  cases h with
  | whole _ hstored hnone =>
    rw [persisted_of_stored hstored]
    exact iff_of_true hmade fun row rows hgot => absurd hgot (hnone _)
  | waiting _ hr hnone =>
    rw [hr]
    exact iff_of_true hmade fun row rows hgot => absurd hgot (hnone _)
  | @settled rows _ hstored hrows =>
    rw [persisted_of_stored hstored]
    cases rows with
    | nil =>
      refine iff_of_true hmade fun row rows hgot => ?_
      cases (hrows _).1 hgot
    | cons row rows =>
      constructor
      · intro hrow row' rows' hgot
        cases (hrows _).1 hgot
        exact hrow
      · intro hall
        exact hall row rows ((hrows _).2 rfl)

/-- A record that was made with an identity has it in its stored row if and only if each row that was
answered has one, and has the same identity as before if and only if each of these rows has that. So it is
after every history in which no identity was staged. -/
theorem keepsIdentity_iff (h : History (origin.make table) events r)
    (hmade : origin.known.contains idName = true) (hunstaged : r.changes.contains idName = false) :
    (r.persisted.contains idName = true ↔
      ∀ row rows, GotRows table origin events (row :: rows) → row.contains idName = true) ∧
    (r.id = (origin.make table).id ↔
      ∀ row rows, GotRows table origin events (row :: rows) →
        identityIn row = (origin.make table).id) := by
  have hphase := phase_of_history h
  have hcolumn : (origin.make table).persisted.contains idName = true := by
    rw [persisted_make, if_pos hmade]
    exact hmade
  rw [id_eq_identityIn hunstaged]
  exact ⟨hphase.forall_answered_iff (P := fun row => row.contains idName = true) hcolumn,
    hphase.forall_answered_iff (P := fun row => identityIn row = (origin.make table).id) id_make.symm⟩

/-- The found widget has the identity seven, as every row that was answered does. -/
theorem keepsIdentity_foundWidget :
    History (Origin.make "Widget" (.id 7))
        [Operation.isFound.event refusedWidget, Operation.isFound.event waitingWidget]
        foundWidget.self ∧
      (Origin.id 7).known.contains idName = true ∧
      foundWidget.self.changes.contains idName = false ∧
      foundWidget.self.persisted.contains idName = true ∧ foundWidget.self.id = 7 ∧
      ∀ row rows, GotRows "Widget" (.id 7)
        [Operation.isFound.event refusedWidget, Operation.isFound.event waitingWidget]
          (row :: rows) → row.contains idName = true ∧ identityIn row = 7 := by
  have hhistory : History (Origin.make "Widget" (.id 7))
      [Operation.isFound.event refusedWidget, Operation.isFound.event waitingWidget]
      foundWidget.self := .step (.step .start rfl) rfl
  obtain ⟨hcolumn, hid⟩ := keepsIdentity_iff hhistory rfl rfl
  exact ⟨hhistory, rfl, rfl, rfl, rfl, fun row rows hgot => ⟨hcolumn.1 rfl row rows hgot,
    hid.1 rfl row rows hgot⟩⟩

/-- A widget over a driver that answers with a row whose columns are spelled in capitals. -/
def capitalWidget : Focus Record where
  self := Origin.make "Widget" (.id 7)
  database := .ofDrivers
    { backend := .sqlite
      databaseName := "main"
      serverVersion := .ok "3"
      queryRows := fun _ _ => .ok [.ofList [("ID", .int 7), ("NAME", .text "bolt")]]
      listTables := fun _ => .ok []
      nativeColumns := fun _ _ => .ok [] }
    none .empty .forgetful

/-- The identity is lost where the answer spells its column in other letters. -/
theorem not_keepsIdentity_capitals :
    ¬ ∀ table origin events r, History (Origin.make table origin) events r →
      origin.known.contains idName = true → r.changes.contains idName = false →
      r.persisted.contains idName = true ∧ r.id = (Origin.make table origin).id := by
  intro h
  have hhistory : History (Origin.make "Widget" (.id 7)) [Operation.isFound.event capitalWidget]
      (afterOperations [.isFound] capitalWidget).self := .step .start rfl
  have hkept := (h _ _ _ _ hhistory rfl rfl).2
  revert hkept
  decide

end Record
end RecordAccess
