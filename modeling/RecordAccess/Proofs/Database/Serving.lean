import RecordAccess.Proofs.Database.Extension

/-!
# Databases that serve answers

A database serves answers if it is connected, or can be, to a driver that answers a statement by its
text alone, whatever calls there were before (`Serves`). A statement that is then asked gets its
answer, by one call more (`Asking.served`), or is refused (`Asking.eq_of_serves`), and the database
serves the same answers after any use (`Serves.extends`).
-/

namespace RecordAccess.Database
open Access

/-- Statements are answered for a backend by their text alone. -/
def Serves (db : Database) (b : Backend) (answer : String → Except String (List Row)) : Prop :=
  ∃ handles,
    (db.handles = some (.ok handles) ∨ db.handles = none ∧ db.connect = .ok handles) ∧
      handles.backend = b ∧
      ∀ history sql, handles.read.driver.queryRows history sql = answer sql

variable {db db' : Database} {b : Backend} {answer : String → Except String (List Row)}

/-- The handles that are got serve the answers, and have been called as the database was. -/
lemma Opening.served {r : Except Error Handles} (h : Opening db r db')
    (hserves : db.Serves b answer) :
    ∃ handles, r = .ok handles ∧ handles.backend = b ∧ handles.read.history = db.calls ∧
      ∀ history sql, handles.read.driver.queryRows history sql = answer sql := by
  obtain ⟨handles, hhandles, hbackend, hanswer⟩ := hserves
  cases h with
  | @opened known hknown =>
    obtain rfl : known = handles := by simpa [hknown] using hhandles
    exact ⟨known, rfl, hbackend, (calls_of_handles hknown).symm, hanswer⟩
  | unavailable hreason => simp [hreason] at hhandles
  | @connects known hnone hconnect =>
    obtain rfl : known = handles := by simpa [hnone, hconnect] using hhandles
    refine ⟨known, rfl, hbackend, ?_, hanswer⟩
    rw [history_of_connect hconnect, calls_of_none hnone]
  | fails hnone hconnect => simp [hnone, hconnect] at hhandles

/-- A database serves the same answers after it was used. -/
lemma Serves.extends (h : db.Serves b answer) (hdb : Extends db db') : db'.Serves b answer := by
  obtain ⟨handles, hhandles, hbackend, hanswer⟩ := h
  -- an attempt that failed is excluded, since the database was connected or could be
  cases hdb.attempted with
  | idle hnone hnone' _ =>
    refine ⟨handles, .inr ⟨hnone', ?_⟩, hbackend, hanswer⟩
    simpa [hnone, hdb.connect] using hhandles
  | failed hnone hconnect _ _ => simp [hnone, hconnect] at hhandles
  | @connected known known' hnone hconnect hx hknown _ =>
    obtain rfl : known = handles := by simpa [hnone, hconnect] using hhandles
    exact ⟨known', .inl hknown, hx.backend.trans hbackend, hx.driver ▸ hanswer⟩
  | unavailable hreason _ _ => simp [hreason] at hhandles
  | @used known known' hknown hx hknown' _ =>
    obtain rfl : known = handles := by simpa [hknown] using hhandles
    exact ⟨known', .inl hknown', hx.backend.trans hbackend, hx.driver ▸ hanswer⟩

/-- A statement that is asked gets its answer, by one call. -/
lemma Asking.served {statement : Backend → String} {r : Except Error (List Row)} {rows : List Row}
    (h : Asking db statement r db') (hserves : db.Serves b answer)
    (hrows : answer (statement b) = .ok rows) :
    r = .ok rows ∧ db'.Serves b answer ∧ db'.calls = .query (statement b) :: db.calls := by
  have hserves' := hserves.extends h.extends
  cases h with
  | @answered handles db₁ _ hopening hgot =>
    obtain ⟨_, hhandles, rfl, hhistory, hanswer⟩ := hopening.served hserves
    cases hhandles
    rw [hanswer, hrows] at hgot
    cases hgot
    exact ⟨rfl, hserves', by rw [← hhistory]; rfl⟩
  | refused hopening hgot =>
    obtain ⟨_, hhandles, rfl, -, hanswer⟩ := hopening.served hserves
    cases hhandles
    rw [hanswer, hrows] at hgot
    cases hgot
  | unopened hopening =>
    obtain ⟨_, hhandles, -⟩ := hopening.served hserves
    cases hhandles

/-- A statement that is asked is answered or refused as its text is. -/
lemma Asking.eq_of_serves {statement : Backend → String} {r : Except Error (List Row)}
    (h : Asking db statement r db') (hserves : db.Serves b answer) :
    r = (answer (statement b)).mapError (.query (statement b)) ∧ db'.Serves b answer := by
  refine ⟨?_, hserves.extends h.extends⟩
  cases h with
  | answered hopening hgot =>
    obtain ⟨_, hhandles, rfl, -, hanswer⟩ := hopening.served hserves
    cases hhandles
    rw [← hanswer, hgot]
    rfl
  | refused hopening hgot =>
    obtain ⟨_, hhandles, rfl, -, hanswer⟩ := hopening.served hserves
    cases hhandles
    rw [← hanswer, hgot]
    rfl
  | unopened hopening =>
    obtain ⟨_, hhandles, -⟩ := hopening.served hserves
    cases hhandles

end RecordAccess.Database
