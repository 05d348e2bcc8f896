import Mathlib.Data.List.Forall2
import RecordAccess.Proofs.Database.Connection
import RecordAccess.RecordSet.Paging

/-!
# What a set fetches

The runs of the operations that fetch from a database what a set keeps. The rows are counted unless
their number is known (`Counting`), a page is loaded in place of the one kept (`Loading`) unless a
place is on that one (`Turning`), and a record is looked up in this order (`Looking`). A failure leaves
the set as it was up to the operation that failed.
-/

namespace RecordAccess
open Access Database

namespace RecordSetOf
variable {ρ : Type}

/-- The query of a set, for a backend. -/
def selectFor (set : RecordSetOf ρ) (b : Backend) : Select :=
  .compile b set.table set.filters set.sorts

/-- The statement that counts the rows of a set. -/
def countStatement (set : RecordSetOf ρ) (b : Backend) : String := (set.selectFor b).countSql

/-- The statement that fetches a page of a set. -/
def pageStatement (set : RecordSetOf ρ) (index : Nat) (b : Backend) : String :=
  (set.selectFor b).pageSql set.pageSize (index * set.pageSize) set.dedup

/-- Sets that differ in what they keep alone are of the same table. -/
lemma table_congr {set set' : RecordSetOf ρ} (h : set.invalidate = set'.invalidate) :
    set.table = set'.table := by
  have hsame := congrArg table h
  exact hsame

/-- Sets that differ in what they keep alone have the same page size. -/
lemma pageSize_congr {set set' : RecordSetOf ρ} (h : set.invalidate = set'.invalidate) :
    set.pageSize = set'.pageSize := by
  have hsame := congrArg pageSize h
  exact hsame

/-- Sets that differ in what they keep alone are counted by the same statement. -/
lemma countStatement_congr {set set' : RecordSetOf ρ} (h : set.invalidate = set'.invalidate) :
    set.countStatement = set'.countStatement := by
  have hsame := congrArg countStatement h
  exact hsame

/-- Sets that differ in what they keep alone have the same statements for pages. -/
lemma pageStatement_congr {set set' : RecordSetOf ρ} (h : set.invalidate = set'.invalidate) :
    set.pageStatement = set'.pageStatement := by
  have hsame := congrArg pageStatement h
  exact hsame

/-- The number of rows is known, or is counted and the page given up, or counting fails. -/
inductive Counting (s : Focus (RecordSetOf ρ)) :
    Except Error Nat → Focus (RecordSetOf ρ) → Prop where
  | known {total} :
    s.self.total = some total →
    Counting s (.ok total) s
  | counted {rows db} :
    s.self.total = none →
    Asking s.database s.self.countStatement (.ok rows) db →
    Counting s (.ok (countOf rows))
      ⟨{ s.self with total := some (countOf rows), page := none }, db⟩
  | failed {e db} :
    s.self.total = none →
    Asking s.database s.self.countStatement (.error e) db →
    Counting s (.error e) ⟨s.self, db⟩

/-- A page takes the place of the one kept, or cannot be fetched. -/
inductive Loading (s : Focus (RecordSetOf ρ)) (index : Nat) :
    Except Error Unit → Focus (RecordSetOf ρ) → Prop where
  | loaded {rows db} :
    Asking s.database (s.self.pageStatement index) (.ok rows) db →
    Loading s index (.ok ()) ⟨{ s.self with page := some ⟨index, rows.map .raw⟩ }, db⟩
  | failed {e db} :
    Asking s.database (s.self.pageStatement index) (.error e) db →
    Loading s index (.error e) ⟨s.self, db⟩

/-- The page of a place is kept already, or is loaded. -/
inductive Turning (s : Focus RecordSet) (offset : Nat) :
    Except Error Unit → Focus RecordSet → Prop where
  | kept :
    s.self.page.map Page.index = some (offset / s.self.pageSize) →
    Turning s offset (.ok ()) s
  | turned {r s'} :
    s.self.page.map Page.index ≠ some (offset / s.self.pageSize) →
    Loading s (offset / s.self.pageSize) r s' →
    Turning s offset r s'

/-- A record is looked up among the rows counted, on the page of its place. -/
inductive Looking (s : Focus RecordSet) (offset : Nat) :
    Except Error (Option Record) → Focus RecordSet → Prop where
  | uncounted {e s₁} :
    Counting s (.error e) s₁ →
    Looking s offset (.error e) s₁
  | beyond {total s₁} :
    Counting s (.ok total) s₁ →
    total ≤ offset →
    Looking s offset (.ok none) s₁
  | unloaded {total s₁ e s₂} :
    Counting s (.ok total) s₁ →
    offset < total →
    Turning s₁ offset (.error e) s₂ →
    Looking s offset (.error e) s₂
  | missing {total s₁ s₂} :
    Counting s (.ok total) s₁ →
    offset < total →
    Turning s₁ offset (.ok ()) s₂ →
    s₂.self.slot? offset = none →
    Looking s offset (.ok none) s₂
  | found {total s₁ s₂ slot} :
    Counting s (.ok total) s₁ →
    offset < total →
    Turning s₁ offset (.ok ()) s₂ →
    s₂.self.slot? offset = some slot →
    Looking s offset (.ok (some (slot.toRecord s₂.self.table)))
      ⟨s₂.self.putRecord offset (slot.toRecord s₂.self.table), s₂.database⟩

/-- The query is compiled for the backend of the connection. -/
lemma runs_compiled_bind {α : Type} {f : Select → Access (Focus (RecordSetOf ρ)) α}
    {s : Focus (RecordSetOf ρ)} {r : Except Error α} {s' : Focus (RecordSetOf ρ)}
    (h : Runs (compiled >>= f) s r s') :
    (∃ e db, r = .error e ∧ Opening s.database (.error e) db ∧ s' = ⟨s.self, db⟩) ∨
      ∃ b db, Runs backend s.database (.ok b) db ∧
        Runs (f (s.self.selectFor b)) ⟨s.self, db⟩ r s' := by
  rw [compiled, bind_assoc] at h
  obtain ⟨e, db, rfl, hbackend, rfl⟩ | ⟨b, db, hbackend, hf⟩ := Focus.runs_onDatabase_bind.1 h
  · obtain ⟨o, ho, hopening⟩ := runs_backend hbackend
    cases o with
    | ok handles => cases ho
    | error e' =>
      cases ho
      exact .inl ⟨e, db, rfl, hopening, rfl⟩
  · refine .inr ⟨b, db, hbackend, ?_⟩
    rw [bind_assoc, Focus.runs_getSelf_bind, pure_bind] at hf
    exact hf

/-- Rows are counted in one of three ways. -/
lemma counting_of_runs {s : Focus (RecordSetOf ρ)} {r : Except Error Nat}
    {s' : Focus (RecordSetOf ρ)} (h : Runs count s r s') : Counting s r s' := by
  rw [count, Focus.runs_getSelf_bind] at h
  cases htotal : s.self.total with
  | some total =>
    simp only [htotal, runs_pure] at h
    obtain ⟨rfl, rfl⟩ := h
    exact .known htotal
  | none =>
    simp only [htotal] at h
    obtain ⟨e, db, rfl, hopening, rfl⟩ | ⟨b, db, hbackend, hasked⟩ := runs_compiled_bind h
    · exact .failed htotal (.unopened hopening)
    obtain ⟨e, db', rfl, hquery, rfl⟩ | ⟨rows, db', hquery, hrest⟩ :=
      Focus.runs_onDatabase_bind.1 hasked
    · exact .failed htotal (asking_of_backend hbackend hquery)
    rw [Focus.runs_modifySelf_bind, runs_pure] at hrest
    obtain ⟨rfl, rfl⟩ := hrest
    exact .counted htotal (asking_of_backend hbackend hquery)

/-- A page is loaded, or the set stays as it was. -/
lemma loading_of_runs {s : Focus (RecordSetOf ρ)} {index : Nat} {r : Except Error Unit}
    {s' : Focus (RecordSetOf ρ)} (h : Runs (loadPage index) s r s') : Loading s index r s' := by
  obtain ⟨e, db, rfl, hopening, rfl⟩ | ⟨b, db, hbackend, hasked⟩ := runs_compiled_bind h
  · exact .failed (.unopened hopening)
  rw [Focus.runs_getSelf_bind] at hasked
  obtain ⟨e, db', rfl, hquery, rfl⟩ | ⟨rows, db', hquery, hrest⟩ :=
    Focus.runs_onDatabase_bind.1 hasked
  · exact .failed (asking_of_backend hbackend hquery)
  obtain ⟨rfl, rfl⟩ := Focus.runs_modifySelf.1 hrest
  exact .loaded (asking_of_backend hbackend hquery)

/-- A page is loaded only if another one is kept. -/
lemma turning_of_runs {s : Focus RecordSet} {offset : Nat} {r : Except Error Unit}
    {s' : Focus RecordSet} (h : Runs (turnTo offset) s r s') : Turning s offset r s' := by
  rw [turnTo, Focus.runs_getSelf_bind] at h
  by_cases hkept : s.self.page.map Page.index = some (offset / s.self.pageSize)
  · simp only [hkept, bne_self_eq_false, Bool.false_eq_true, if_false, runs_pure] at h
    obtain ⟨rfl, rfl⟩ := h
    exact .kept hkept
  · simp only [bne_iff_ne, ne_eq, hkept, not_false_eq_true, if_true] at h
    exact .turned hkept (loading_of_runs h)

/-- A record is looked up in one of five ways. -/
lemma looking_of_runs {s : Focus RecordSet} {offset : Nat} {r : Except Error (Option Record)}
    {s' : Focus RecordSet} (h : Runs (at? offset) s r s') : Looking s offset r s' := by
  obtain ⟨e, rfl, hcount⟩ | ⟨total, s₁, hcount, hrest⟩ := runs_bind.1 h
  · exact .uncounted (counting_of_runs hcount)
  have hcounting := counting_of_runs hcount
  by_cases hle : total ≤ offset
  · simp only [hle, if_true, runs_pure] at hrest
    obtain ⟨rfl, rfl⟩ := hrest
    exact .beyond hcounting hle
  simp only [hle, if_false] at hrest
  obtain ⟨e, rfl, hturn⟩ | ⟨_, s₂, hturn, hrest⟩ := runs_bind.1 hrest
  · exact .unloaded hcounting (Nat.lt_of_not_le hle) (turning_of_runs hturn)
  have hturning := turning_of_runs hturn
  rw [Focus.runs_getSelf_bind] at hrest
  cases hslot : s₂.self.slot? offset with
  | none =>
    simp only [hslot, runs_pure] at hrest
    obtain ⟨rfl, rfl⟩ := hrest
    exact .missing hcounting (Nat.lt_of_not_le hle) hturning hslot
  | some slot =>
    simp only [hslot, Focus.runs_modifySelf_bind, runs_pure] at hrest
    obtain ⟨rfl, rfl⟩ := hrest
    exact .found hcounting (Nat.lt_of_not_le hle) hturning hslot

/-- One member of a list changes, to one that is still related to its partner. -/
lemma forall₂_set {α β : Type} {R : α → β → Prop} {xs : List α} {ys : List β} {i : Nat} {b : β}
    (h : List.Forall₂ R xs ys) (hb : ∀ a y, ys[i]? = some y → R a y → R a b) :
    List.Forall₂ R xs (ys.set i b) := by
  induction h generalizing i with
  | nil => exact .nil
  | cons hr hrest ih =>
    cases i with
    | zero => exact .cons (hb _ _ rfl hr) hrest
    | succ i => exact .cons hr (ih hb)

/-- The places of the page kept stay related to some rows if the record that is put in one is. -/
lemma forall₂_putRecord {R : Row → Slot Record → Prop} {set : RecordSet} {page : Page Record}
    {rows : List Row} {offset : Nat} {record : Record} (hpage : set.page = some page)
    (h : List.Forall₂ R rows page.slots)
    (hrecord : ∀ row slot, set.slot? offset = some slot → R row slot → R row (.record record)) :
    List.Forall₂ R rows (page.slots.set (offset % set.pageSize) (.record record)) := by
  apply forall₂_set h
  intro row slot hslot hr
  apply hrecord row slot _ hr
  rw [slot?, hpage]
  exact hslot

/-- A record that was put in a place is there. -/
lemma slot?_putRecord {set : RecordSet} {offset : Nat} {slot : Slot Record} (record : Record)
    (h : set.slot? offset = some slot) :
    (set.putRecord offset record).slot? offset = some (.record record) := by
  obtain ⟨page, hpage, hslot⟩ := Option.bind_eq_some_iff.1 h
  obtain ⟨hlt, -⟩ := List.getElem?_eq_some_iff.1 hslot
  simp [RecordSetOf.slot?, putRecord, hpage, hlt]

/-- The item of a walk for the outcome of looking a record up, and the walk after it. -/
def taken (walk : Walk) : Except Error (Option Record) → Option (Except Error Record) × Walk
  | .ok (some record) => (some (.ok record), ⟨walk.offset + 1, false⟩)
  | .ok none => (none, ⟨walk.offset + 1, false⟩)
  | .error e => (some (.error e), ⟨walk.offset + 1, true⟩)

/-- A walk that an error has ended does nothing more; another one looks its next record up. -/
lemma taking_of_runs {walk : Walk} {s : Focus RecordSet}
    {r : Except Error (Option (Except Error Record) × Walk)} {s' : Focus RecordSet}
    (h : Runs walk.next? s r s') :
    (walk.failed = true ∧ r = .ok (none, walk) ∧ s' = s) ∨
      (walk.failed = false ∧ ∃ o, Looking s walk.offset o s' ∧ r = .ok (taken walk o)) := by
  unfold Walk.next? at h
  cases hfailed : walk.failed with
  | true =>
    simp only [hfailed, if_true, runs_pure] at h
    exact .inl ⟨rfl, h.1, h.2⟩
  | false =>
    simp only [hfailed, Bool.false_eq_true, if_false] at h
    obtain ⟨o, s₁, hat, hrest⟩ := runs_attempt_bind.1 h
    refine .inr ⟨rfl, o, ?_⟩
    -- an attempt does not fail, so that the walk goes on in every case
    obtain ⟨rfl, rfl⟩ : r = .ok (taken walk o) ∧ s' = s₁ := by
      cases o with
      | ok found => cases found <;> simpa [taken] using hrest
      | error e => simpa [taken] using hrest
    exact ⟨looking_of_runs hat, rfl⟩

section Walks
variable {P : Focus RecordSet → Prop} {α : Type}

/-- What looking records up keeps, a walk keeps with each item. -/
lemma keeps_next? (hat : ∀ offset, Keeps P (at? offset)) (walk : Walk) : Keeps P walk.next? := by
  unfold Walk.next?
  split
  · exact keeps_pure _
  · refine keeps_bind (keeps_attempt (hat _)) fun item => ?_
    split <;> exact keeps_pure _

/-- What look-ups and the work on an item keep is kept by a walk. -/
lemma keeps_walk {f : Except Error Record → Access Database α}
    (hat : ∀ offset, Keeps P (at? offset)) (hf : ∀ item, Keeps P (Focus.onDatabase (f item)))
    (walk : Walk) (limit : Nat) : Keeps P (walk.visit f limit) := by
  induction limit generalizing walk with
  | zero => exact keeps_pure []
  | succ limit ih =>
    refine keeps_bind (keeps_next? hat walk) fun next => ?_
    obtain ⟨item, walk⟩ := next
    cases item with
    | none => exact keeps_pure []
    | some item => exact keeps_bind (hf item) fun _ => keeps_bind (ih walk) fun _ => keeps_pure _

/-- What counting, look-ups and reading a row keep is kept by taking rows. -/
lemma keeps_takeRows (hcount : Keeps P count) (hat : ∀ offset, Keeps P (at? offset))
    (hitem : ∀ item, Keeps P (Focus.onDatabase (itemRow item))) (limit : Option Nat) :
    Keeps P (takeRows limit) := by
  unfold takeRows RecordSetOf.visit
  split
  · exact keeps_pure []
  · refine keeps_bind (keeps_attempt hcount) fun total => ?_
    split
    · exact keeps_bind (hitem _) fun _ => keeps_pure _
    · exact keeps_walk hat hitem _ _

end Walks

end RecordSetOf
end RecordAccess
