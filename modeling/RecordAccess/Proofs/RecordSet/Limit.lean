import RecordAccess.Proofs.RecordSet.Listing
import RecordAccess.Proofs.RecordSet.Sending

/-!
# Rows up to a limit

A database that answers a statement by its text gives the rows of a set by its answers alone: the rows
from a place on are computed from the answers (`rowsFrom`), and to take rows comes to these and sends
no statement for a place past the last one wanted (`taking_of_serves`).

What is wanted first does not depend on how much is wanted after it. A smaller number of rows is the
first part of a larger one (`rowsFrom_take`), and where the pages wanted are slices of a list the rows
are those of the list, whatever later pages are answered with (`rowsFrom_of_slices`).
-/

namespace RecordAccess
open Access Database

namespace RecordSetOf

section Answers
variable (answer : String → Except String (List Row)) (b : Backend)

/-- What is got for a statement, or the error of one that is refused. -/
def got (sql : String) : Except Error (List Row) := (answer sql).mapError (.query sql)

/-- The row of a record, which is fetched if no more than its identity is known. -/
def rowOf (record : Record) : Except Error Row :=
  if record.isLazy then
    (got answer (record.rowStatement b)).map fun rows => (record.received rows).effectiveRow
  else .ok record.effectiveRow

/-- The record at a place of a set, if its page has one. -/
def recordAt (set : RecordSet) (offset : Nat) : Except Error (Option Record) :=
  (got answer (set.pageStatement (offset / set.pageSize) b)).map fun rows =>
    rows[offset % set.pageSize]?.map (.ofRow set.table)

/-- The rows of a set from a place on, so many at most. -/
def rowsFrom (set : RecordSet) (offset : Nat) : (limit : Nat) → Except Error (List Row)
  | 0 => .ok []
  | limit + 1 => do
    match ← recordAt answer b set offset with
    | none => return []
    | some record =>
      let row ← rowOf answer b record
      let rows ← rowsFrom set (offset + 1) limit
      return row :: rows

/-- No more rows are wanted than there are. -/
lemma bounded_le (limit : Option Nat) (total : Nat) : bounded limit total ≤ total := by
  cases limit with
  | none => exact Nat.le_refl total
  | some n => exact Nat.min_le_right n total

/-- The rows that are wanted of a set. Where none is wanted they are not counted. -/
def rowsWanted (set : RecordSet) (limit : Option Nat) : Except Error (List Row) :=
  if limit = some 0 then .ok []
  else do
    let counted ← got answer (set.countStatement b)
    rowsFrom answer b set 0 (bounded limit (countOf counted))

end Answers

section Rows
variable {answer : String → Except String (List Row)} {b : Backend} {set : RecordSet}

/-- There are rows from a place on if its page has no record there, or else a row of that record and
rows behind it. -/
lemma rowsFrom_succ_eq_ok {offset limit : Nat} {rows : List Row} :
    rowsFrom answer b set offset (limit + 1) = .ok rows ↔
      recordAt answer b set offset = .ok none ∧ rows = [] ∨
        ∃ record row more, recordAt answer b set offset = .ok (some record) ∧
          rowOf answer b record = .ok row ∧ rowsFrom answer b set (offset + 1) limit = .ok more ∧
          rows = row :: more := by
  rw [rowsFrom]
  cases recordAt answer b set offset with
  | error e => simp [bind, Except.bind]
  | ok found =>
    cases found with
    | none => simp [bind, Except.bind, pure, Except.pure, eq_comm]
    | some record =>
      cases hrow : rowOf answer b record with
      | error e => simp [bind, Except.bind, hrow]
      | ok row =>
        cases rowsFrom answer b set (offset + 1) limit with
        | error e => simp [bind, Except.bind, hrow]
        | ok more => simp [bind, Except.bind, pure, Except.pure, hrow, eq_comm]

/-- Fewer rows are the first ones of more. -/
lemma rowsFrom_take {offset limit : Nat} {rows : List Row}
    (h : rowsFrom answer b set offset limit = .ok rows) (n : Nat) :
    rowsFrom answer b set offset (min n limit) = .ok (rows.take n) := by
  induction n generalizing offset limit rows with
  | zero =>
    rw [Nat.zero_min, List.take_zero]
    rfl
  | succ n ih =>
    cases limit with
    | zero =>
      cases h
      rw [List.take_nil]
      rfl
    | succ limit =>
      rw [Nat.succ_min_succ, rowsFrom_succ_eq_ok]
      obtain ⟨hnone, rfl⟩ | ⟨record, row, more, hrecord, hrow, hmore, rfl⟩ := rowsFrom_succ_eq_ok.1 h
      · exact .inl ⟨hnone, List.take_nil⟩
      · exact .inr ⟨record, row, more.take n, hrecord, hrow, ih hmore, rfl⟩

/-- A limit gives the first ones of all rows. -/
lemma rowsWanted_take {rows : List Row} (h : rowsWanted answer b set none = .ok rows) (n : Nat) :
    rowsWanted answer b set (some n) = .ok (rows.take n) := by
  rw [rowsWanted, if_neg nofun] at h
  by_cases hn : n = 0
  · subst hn
    rfl
  rw [rowsWanted, if_neg (by simpa using hn)]
  cases hcounted : got answer (set.countStatement b) with
  | error e => simp [hcounted, bind, Except.bind] at h
  | ok counted =>
    rw [hcounted] at h
    exact rowsFrom_take h n

/-- Where the pages of the places wanted are slices of a list, the rows are those of the list. -/
lemma rowsFrom_of_slices {rows : List Row} (offset : Nat) {limit : Nat}
    (hpages : ∀ index, index * set.pageSize < offset + limit →
      answer (set.pageStatement index b) =
        .ok ((rows.drop (index * set.pageSize)).take set.pageSize)) :
    rowsFrom answer b set offset limit =
      ((rows.drop offset).take limit).mapM fun row => rowOf answer b (.ofRow set.table row) := by
  induction limit generalizing offset with
  | zero =>
    rw [List.take_zero]
    rfl
  | succ limit ih =>
    have hplace : offset / set.pageSize * set.pageSize < offset + (limit + 1) :=
      Nat.lt_of_le_of_lt (Nat.div_mul_le_self _ _) (by omega)
    have hrecord : recordAt answer b set offset =
        .ok (rows[offset]?.map (.ofRow set.table)) := by
      rw [recordAt, got, hpages _ hplace, ← getElem?_page rows offset set.pageSize_pos]
      rfl
    have ih := ih (offset + 1) fun index hindex => hpages index (by omega)
    rw [rowsFrom, hrecord]
    cases hrow : rows[offset]? with
    | none =>
      -- fewer rows than were counted
      rw [List.drop_eq_nil_of_le (List.getElem?_eq_none_iff.1 hrow)]
      rfl
    | some row =>
      obtain ⟨hlt, rfl⟩ := List.getElem?_eq_some_iff.1 hrow
      rw [List.drop_eq_getElem_cons hlt, List.take_succ_cons, List.mapM_cons, ← ih]
      rfl

/-- The rows wanted are those of a list, if the pages that hold them are slices of it. -/
lemma rowsWanted_of_slices {counted rows : List Row} {limit : Option Nat}
    (hcount : answer (set.countStatement b) = .ok counted)
    (hpages : ∀ index, index * set.pageSize < bounded limit (countOf counted) →
      answer (set.pageStatement index b) =
        .ok ((rows.drop (index * set.pageSize)).take set.pageSize)) :
    rowsWanted answer b set limit =
      (rows.take (bounded limit (countOf counted))).mapM
        fun row => rowOf answer b (.ofRow set.table row) := by
  by_cases hlimit : limit = some 0
  · subst hlimit
    rw [bounded, Nat.zero_min, List.take_zero]
    rfl
  · have hrows := rowsFrom_of_slices 0 (by simpa using hpages)
    rw [List.drop_zero] at hrows
    rw [rowsWanted, if_neg hlimit, got, hcount, ← hrows]
    rfl

end Rows

/-- The statements that the first `n` rows of a set take. -/
inductive Needed (set : RecordSet) (b : Backend) (n : Nat) : String → Prop where
  | count : Needed set b n (set.countStatement b)
  | page {offset : Nat} : offset < n → Needed set b n (set.pageStatement (offset / set.pageSize) b)
  | record (table : String) (id : Int64) : Needed set b n (recordSql b table id)

/-- The last page that is fetched for some rows holds the last one of them. -/
lemma Needed.index_le {set : RecordSet} {b : Backend} {n index : Nat}
    (h : Needed set b n (set.pageStatement index b)) : index ≤ (n - 1) / set.pageSize := by
  generalize hsql : set.pageStatement index b = sql at h
  cases h with
  | count => exact absurd (congrArg Call.query hsql) (set.pageCall_ne_countCall b index)
  | page hlt =>
    obtain rfl := pageStatement_injective set b hsql
    exact Nat.div_le_div_right (by omega)
  | record table id => exact absurd hsql (Sql.pageSql_ne_recordSql _ _ _ _ _ _ _ _ _)

/-- A set on the way to its first `n` rows: it has been counted, the page kept is what its statement is
answered with, and nothing was sent that these rows do not take. -/
structure Drawing (set : RecordSet) (b : Backend) (answer : String → Except String (List Row))
    (total n : Nat) (s : Focus RecordSet) : Prop where
  same : s.self.invalidate = set.invalidate
  total : s.self.total = some total
  page : ∀ page, s.self.page = some page →
    ∃ rows, got answer (set.pageStatement page.index b) = .ok rows ∧
      List.Forall₂ (Shown set.table) rows page.slots
  serves : s.database.Serves b answer
  sends : s.database.Sends b (Needed set b n)

section Drawing
variable {set : RecordSet} {b : Backend} {answer : String → Except String (List Row)}
  {total n : Nat} {s s' : Focus RecordSet}

/-- A set on the way has the table of the one that it comes from. -/
lemma Drawing.table_eq (h : Drawing set b answer total n s) : s.self.table = set.table :=
  table_congr h.same

/-- A set on the way has the page size of the one that it comes from. -/
lemma Drawing.pageSize_eq (h : Drawing set b answer total n s) :
    s.self.pageSize = set.pageSize :=
  pageSize_congr h.same

/-- A set on the way has the statements for pages of the one that it comes from. -/
lemma Drawing.pageStatement_eq (h : Drawing set b answer total n s) (index : Nat) :
    s.self.pageStatement index b = set.pageStatement index b :=
  congrFun (congrFun (pageStatement_congr h.same) index) b

/-- A set that was counted is not counted again. -/
lemma counting_of_total {r : Except Error Nat} (htotal : s.self.total = some total)
    (h : Counting s r s') : r = .ok total ∧ s' = s := by
  cases h with
  | known hknown =>
    rw [htotal] at hknown
    cases hknown
    exact ⟨rfl, rfl⟩
  | counted hnone _ => simp [htotal] at hnone
  | failed hnone _ => simp [htotal] at hnone

/-- The page of a place wanted is kept, be it fetched or not, or it is not to be had. -/
lemma Drawing.turning (h : Drawing set b answer total n s) {offset : Nat} (hlt : offset < n)
    {r : Except Error Unit} (hturning : Turning s offset r s') :
    Drawing set b answer total n s' ∧
      r = (got answer (set.pageStatement (offset / set.pageSize) b)).map (fun _ => ()) ∧
      (r = .ok () → s'.self.page.map Page.index = some (offset / set.pageSize)) := by
  cases hturning with
  | kept hkept =>
    rw [h.pageSize_eq] at hkept
    refine ⟨h, ?_, fun _ => hkept⟩
    obtain ⟨page, hpage, hindex⟩ := Option.map_eq_some_iff.1 hkept
    obtain ⟨rows, hrows, -⟩ := h.page page hpage
    rw [← hindex, hrows]
    rfl
  | turned _ hloading =>
    rw [h.pageSize_eq] at hloading
    have hneeded : Needed set b n (s.self.pageStatement (offset / set.pageSize) b) := by
      rw [h.pageStatement_eq]
      exact .page hlt
    cases hloading with
    | @loaded rows db hasking =>
      obtain ⟨hrows, hserves⟩ := hasking.eq_of_serves h.serves
      rw [h.pageStatement_eq] at hrows
      refine ⟨⟨h.same, h.total, ?_, hserves, hasking.sends h.sends hneeded⟩,
        congrArg (Except.map fun _ => ()) hrows, fun _ => rfl⟩
      intro page hpage
      obtain rfl := Option.some.inj hpage
      exact ⟨rows, hrows.symm, shown_raw _ _⟩
    | @failed e db hasking =>
      obtain ⟨hrows, hserves⟩ := hasking.eq_of_serves h.serves
      rw [h.pageStatement_eq] at hrows
      exact ⟨⟨h.same, h.total, h.page, hserves, hasking.sends h.sends hneeded⟩,
        congrArg (Except.map fun _ => ()) hrows, nofun⟩

/-- A place on the page kept holds the record there. -/
lemma Drawing.slot?_eq (h : Drawing set b answer total n s) {offset : Nat}
    (hpage : s.self.page.map Page.index = some (offset / set.pageSize)) :
    recordAt answer b set offset = .ok ((s.self.slot? offset).map (Slot.toRecord set.table)) := by
  obtain ⟨page, hpage, hindex⟩ := Option.map_eq_some_iff.1 hpage
  obtain ⟨rows, hrows, hshown⟩ := h.page page hpage
  have hslots := congrArg (·[offset % set.pageSize]?) (map_toRecord_of_shown hshown)
  rw [recordAt, ← hindex, hrows, slot?, hpage, Option.bind_some, h.pageSize_eq]
  simpa [Except.map] using hslots.symm

/-- A record wanted is the one that the answers give, and is put in its place. -/
lemma Drawing.looking (h : Drawing set b answer total n s) {offset : Nat} (hcounts : offset < total)
    (hlt : offset < n) {r : Except Error (Option Record)} (hlooking : Looking s offset r s') :
    Drawing set b answer total n s' ∧ r = recordAt answer b set offset := by
  cases hlooking with
  | uncounted hcounting => cases (counting_of_total h.total hcounting).1
  | beyond hcounting hle =>
    cases (counting_of_total h.total hcounting).1
    omega
  | unloaded hcounting _ hturning =>
    obtain ⟨-, rfl⟩ := counting_of_total h.total hcounting
    obtain ⟨h', hr, -⟩ := h.turning hlt hturning
    refine ⟨h', ?_⟩
    cases hgot : got answer (set.pageStatement (offset / set.pageSize) b) with
    | ok rows => simp [hgot, Except.map] at hr
    | error e => simpa [recordAt, hgot, Except.map] using hr
  | missing hcounting _ hturning hslot =>
    obtain ⟨-, rfl⟩ := counting_of_total h.total hcounting
    obtain ⟨h', -, hpage⟩ := h.turning hlt hturning
    refine ⟨h', ?_⟩
    rw [h'.slot?_eq (hpage rfl), hslot]
    rfl
  | @found _ _ s₂ slot hcounting _ hturning hslot =>
    obtain ⟨-, rfl⟩ := counting_of_total h.total hcounting
    obtain ⟨h', -, hpage⟩ := h.turning hlt hturning
    refine ⟨⟨h'.same, h'.total, ?_, h'.serves, h'.sends⟩, ?_⟩
    · intro page' hp
      obtain ⟨page, hkept, rfl⟩ := Option.map_eq_some_iff.1 hp
      obtain ⟨rows, hrows, hshown⟩ := h'.page page hkept
      refine ⟨rows, hrows, ?_⟩
      rw [h'.table_eq]
      exact shown_putRecord hkept hshown hslot
    · rw [h'.slot?_eq (hpage rfl), hslot, h'.table_eq]
      rfl

/-- The row of a record is the one that the answers give. -/
lemma rowOf_of_runs {db db' : Database} (hserves : db.Serves b answer) {record : Record}
    {r : Except Error Row} (hrun : Runs (itemRow (.ok record)) db r db') :
    r = rowOf answer b record ∧ db'.Serves b answer := by
  obtain ⟨t, ht, rfl⟩ := Focus.runs_on.1 hrun
  cases (Record.fetches_look Record.effectiveRow).runs _ r t ht with
  | failed hhydrate =>
    cases Record.hydrating_of_runs hhydrate with
    | failed hlazy hasking =>
      obtain ⟨hgot, hserves'⟩ := hasking.eq_of_serves hserves
      refine ⟨?_, hserves'⟩
      rw [rowOf, if_pos hlazy, got, ← hgot]
      rfl
  | done hhydrate =>
    cases Record.hydrating_of_runs hhydrate with
    | known hlazy => exact ⟨by rw [rowOf, if_neg (Bool.not_eq_true _ ▸ hlazy)], hserves⟩
    | received hlazy hasking =>
      obtain ⟨hgot, hserves'⟩ := hasking.eq_of_serves hserves
      refine ⟨?_, hserves'⟩
      rw [rowOf, if_pos hlazy, got, ← hgot]
      rfl

/-- To read the row of an item goes on with the way, and gives what is got for it. -/
lemma Drawing.reading (h : Drawing set b answer total n s) {record : Record} {r : Except Error Row}
    {db : Database} (hrun : Runs (itemRow (.ok record)) s.database r db) :
    Drawing set b answer total n ⟨s.self, db⟩ ∧ r = rowOf answer b record := by
  obtain ⟨hr, hserves⟩ := rowOf_of_runs h.serves hrun
  have hsends : Keeps (Sends b (Needed set b n)) (itemRow (.ok record)) :=
    keeps_zoom (fun _ hdb => hdb) (fun _ _ _ ht => ht)
      (Record.keeps_sends_hydrated .record Record.effectiveRow)
  exact ⟨⟨h.same, h.total, h.page, hserves, hsends _ _ _ h.sends hrun⟩, hr⟩

/-- A walk gives the rows from its place on that the answers give. -/
lemma Drawing.walk {offset limit : Nat} (hcounts : offset + limit ≤ total) (hle : offset + limit ≤ n)
    (h : Drawing set b answer total n s) {r : Except Error (List Row)}
    (hrun : Runs ((⟨offset, false⟩ : Walk).visit itemRow limit) s r s') :
    Drawing set b answer total n s' ∧ r = rowsFrom answer b set offset limit := by
  -- on the rows still wanted, of which each may turn the page
  induction limit generalizing offset s r with
  | zero =>
    obtain ⟨rfl, rfl⟩ := runs_pure.1 hrun
    exact ⟨h, rfl⟩
  | succ limit ih =>
    rw [Walk.visit, Walk.next?, if_neg Bool.false_ne_true, bind_assoc,
      attempt_bind fun e => rfl] at hrun
    have hcount : offset < total := by omega
    have hlt : offset < n := by omega
    rw [rowsFrom]
    obtain ⟨e, rfl, hat⟩ | ⟨found, s₁, hat, hrest⟩ := runs_bind.1 hrun
    · obtain ⟨h₁, hrecord⟩ := h.looking hcount hlt (looking_of_runs hat)
      refine ⟨h₁, ?_⟩
      rw [← hrecord]
      rfl
    obtain ⟨h₁, hrecord⟩ := h.looking hcount hlt (looking_of_runs hat)
    rw [← hrecord]
    cases found with
    | none =>
      obtain ⟨rfl, rfl⟩ := runs_pure.1 hrest
      exact ⟨h₁, rfl⟩
    | some record =>
      rw [pure_bind] at hrest
      obtain ⟨e, db, rfl, hrow, rfl⟩ | ⟨row, db, hrow, hrest⟩ := Focus.runs_onDatabase_bind.1 hrest
      · obtain ⟨h₂, hrow⟩ := h₁.reading hrow
        refine ⟨h₂, ?_⟩
        simp only [bind, Except.bind, ← hrow]
      obtain ⟨h₂, hrow⟩ := h₁.reading hrow
      obtain ⟨o, rfl, hwalk⟩ := runs_map.1 (by simpa using hrest)
      obtain ⟨h', rfl⟩ := ih (by omega) (by omega) h₂ hwalk
      refine ⟨h', ?_⟩
      simp only [bind, Except.bind, ← hrow]
      cases rowsFrom answer b set (offset + 1) limit <;> rfl

end Drawing

/-- To take the rows of a set that was not counted yet comes to those that the answers give, and sends
no statement that they do not take. -/
lemma taking_of_serves {set : RecordSet} {b : Backend} {answer : String → Except String (List Row)}
    {limit : Option Nat} {n : Nat} {db : Database} {r : Except Error (List Row)} {s' : Focus RecordSet}
    (hfresh : set.total = none) (hserves : db.Serves b answer)
    (hsends : db.Sends b (Needed set b n))
    (hn : ∀ counted, got answer (set.countStatement b) = .ok counted →
      bounded limit (countOf counted) ≤ n)
    (hrun : Runs (takeRows limit) ⟨set, db⟩ r s') :
    r = rowsWanted answer b set limit ∧ s'.self.invalidate = set.invalidate ∧
      s'.database.Sends b (Needed set b n) := by
  by_cases hlimit : limit = some 0
  · rw [takeRows, RecordSetOf.visit, if_pos hlimit] at hrun
    obtain ⟨rfl, rfl⟩ := runs_pure.1 hrun
    exact ⟨by rw [rowsWanted, if_pos hlimit], rfl, hsends⟩
  rw [takeRows_eq hlimit] at hrun
  rw [rowsWanted, if_neg hlimit]
  obtain ⟨e, rfl, hcount⟩ | ⟨total, s₁, hcount, hwalk⟩ := runs_bind.1 hrun
  · cases counting_of_runs hcount with
    | failed _ hasking =>
      obtain ⟨hgot, -⟩ := hasking.eq_of_serves hserves
      refine ⟨?_, rfl, hasking.sends hsends .count⟩
      rw [got, ← hgot]
      rfl
  · cases counting_of_runs hcount with
    | known hknown => simp [hfresh] at hknown
    | @counted counted db₁ _ hasking =>
      obtain ⟨hgot, hserves₁⟩ := hasking.eq_of_serves hserves
      have hcounted : got answer (set.countStatement b) = .ok counted := hgot.symm
      have hstart : Drawing set b answer (countOf counted) n
          ⟨{ set with total := some (countOf counted), page := none }, db₁⟩ := by
        refine ⟨rfl, rfl, ?_, hserves₁, hasking.sends hsends .count⟩
        rintro _ ⟨⟩
      have hcounts := bounded_le limit (countOf counted)
      have hle := hn counted hcounted
      obtain ⟨h', rfl⟩ := hstart.walk (by omega) (by omega) hwalk
      exact ⟨by rw [hcounted]; rfl, h'.same, h'.sends⟩

/-- However many rows are wanted, they are no more than some number. -/
lemma exists_bounded_le (answer : String → Except String (List Row)) (b : Backend) (set : RecordSet)
    (limit : Option Nat) : ∃ n, ∀ counted, got answer (set.countStatement b) = .ok counted →
      bounded limit (countOf counted) ≤ n := by
  cases got answer (set.countStatement b) with
  | error e => exact ⟨0, nofun⟩
  | ok counted =>
    refine ⟨bounded limit (countOf counted), ?_⟩
    rintro _ ⟨⟩
    exact Nat.le_refl _

/-- The laid out text of a set has all rows that the answers give. -/
lemma toText_of_serves {set : RecordSet} {b : Backend} {answer : String → Except String (List Row)}
    {db : Database} {indent : Nat} {r : Except Error String} {s' : Focus RecordSet}
    (hfresh : set.total = none) (hserves : db.Serves b answer)
    (hsends : ∀ n, db.Sends b (Needed set b n)) (hrun : Runs (toText indent) ⟨set, db⟩ r s') :
    r = (rowsWanted answer b set none).map fun rows => (set.toJson rows).toText indent := by
  obtain ⟨n, hn⟩ := exists_bounded_le answer b set none
  obtain ⟨e, rfl, hrows⟩ | ⟨rows, s₁, hrows, hrest⟩ := runs_bind.1 hrun
  · obtain ⟨hwanted, -⟩ := taking_of_serves hfresh hserves (hsends n) hn hrows
    rw [← hwanted]
    rfl
  · obtain ⟨hwanted, hsame, -⟩ := taking_of_serves hfresh hserves (hsends n) hn hrows
    rw [Focus.runs_getSelf_bind] at hrest
    obtain ⟨rfl, -⟩ := runs_pure.1 hrest
    -- what the set was asked for is not changed by the rows that were taken
    have hjson : s₁.self.toJson rows = set.toJson rows := by
      have hjson := congrArg (toJson · rows) hsame
      exact hjson
    rw [← hwanted, hjson]
    rfl

/-- The row of a record that was made of a whole row is that row. -/
lemma rowOf_ofRow {db : Database} {b : Backend} {answer : String → Except String (List Row)}
    (hserves : db.Serves b answer) (table : String) {row : Row} (hid : row.contains Record.idName)
    (hsize : 2 ≤ row.size) : rowOf answer b (.ofRow table row) = .ok row := by
  obtain ⟨r, db', hrun⟩ := exists_runs (itemRow (.ok (.ofRow table row))) db
  rw [← (rowOf_of_runs hserves hrun).1, (runs_itemRow_ofRow hid hsize hrun).1]

/-- Whole rows are had without a further statement. -/
lemma mapM_rowOf_of_whole {db : Database} {b : Backend}
    {answer : String → Except String (List Row)} (hserves : db.Serves b answer) (table : String)
    {rows : List Row} (hwhole : ∀ row ∈ rows, row.contains Record.idName ∧ 2 ≤ row.size) :
    (rows.mapM fun row => rowOf answer b (.ofRow table row)) = .ok rows := by
  induction rows with
  | nil => rfl
  | cons row rows ih =>
    obtain ⟨⟨hid, hsize⟩, hrest⟩ := List.forall_mem_cons.1 hwhole
    rw [List.mapM_cons, rowOf_ofRow hserves table hid hsize, ih hrest]
    rfl

/-- To take no rows gives none and sends nothing. -/
lemma runs_takeRows_zero {s s' : Focus RecordSet} {r : Except Error (List Row)} :
    Runs (takeRows (some 0)) s r s' ↔ r = .ok [] ∧ s' = s := by
  rw [takeRows, RecordSetOf.visit, if_pos rfl]
  exact runs_pure

end RecordSetOf
end RecordAccess
