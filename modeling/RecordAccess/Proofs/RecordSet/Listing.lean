import Mathlib.Data.List.Forall2
import RecordAccess.Proofs.Database.Serving
import RecordAccess.Proofs.Record.Running
import RecordAccess.Proofs.RecordSet.Fetching
import RecordAccess.Proofs.Sql.Statement

/-!
# Sets as lists

A set whose database answers the count with a number and each page with a slice of one list of rows
(`Lists`) can be read like that list: the record at a place is that of the row there, as far as the
number counted goes. This is `ReadsAs`, for any requests in any order, with the calls that they make:
the rows are counted at most once, and a page is fetched if a place on it is wanted and another page
is kept.

Between requests the page kept is a slice of the list, by `Showing`, which every request keeps
(`request_of_showing`). The headline `readsAs_of_lists` closes the file, with a set of three rows as a
witness that its assumptions can be met.
-/

namespace RecordAccess
open Access Database

namespace RecordSetOf

/-- Requests to a set that only read it. A walk is taken item by item. -/
inductive Request where
  | count
  | at (offset : Nat)
  | next (walk : Walk)

/-- What a request gives. -/
inductive Reply where
  | count (total : Nat)
  | record (record : Option Record)
  | item (item : Option (Except Error Record)) (walk : Walk)

/-- Make a request. -/
def Request.run : Request → Access (Focus RecordSet) Reply
  | count => .count <$> RecordSetOf.count
  | .at offset => .record <$> at? offset
  | next walk => (fun (item, walk) => .item item walk) <$> walk.next?

/-- The set and its database after some requests. -/
def afterRequests (requests : List Request) (s : Focus RecordSet) : Focus RecordSet :=
  requests.foldl (fun s request => (request.run.outcome s).2) s

/-- Statements are answered by the number of rows and by slices of a list. -/
structure Lists (answer : String → Except String (List Row)) (set : RecordSet) (b : Backend)
    (total : Nat) (rows : List Row) : Prop where
  count : ∃ counted, answer (set.countStatement b) = .ok counted ∧ countOf counted = total
  page : ∀ index, answer (set.pageStatement index b) =
    .ok ((rows.drop (index * set.pageSize)).take set.pageSize)

/-- The record at a place of a list of which some rows count. -/
def listed (table : String) (total : Nat) (rows : List Row) (offset : Nat) : Option Record :=
  if offset < total then rows[offset]?.map (.ofRow table) else none

/-- What a request gives for a list. -/
def Request.reply (table : String) (total : Nat) (rows : List Row) : Request → Reply
  | count => .count total
  | .at offset => .record (listed table total rows offset)
  | next walk =>
    if walk.failed then .item none walk
    else .item ((listed table total rows walk.offset).map .ok) ⟨walk.offset + 1, false⟩

/-- The call that counts the rows, unless their number is known. -/
def countCalls (set : RecordSet) (b : Backend) : List Call :=
  if set.total.isSome then [] else [.query (set.countStatement b)]

/-- The call that fetches the page of a place that counts, unless that page is kept. -/
def pageCalls (set : RecordSet) (b : Backend) (total offset : Nat) : List Call :=
  if offset < total ∧ set.page.map Page.index ≠ some (offset / set.pageSize) then
    [.query (set.pageStatement (offset / set.pageSize) b)]
  else []

/-- The calls that a request makes, latest first. -/
def Request.calls (set : RecordSet) (b : Backend) (total : Nat) : Request → List Call
  | count => set.countCalls b
  | .at offset => set.pageCalls b total offset ++ set.countCalls b
  | next walk =>
    if walk.failed then [] else set.pageCalls b total walk.offset ++ set.countCalls b

/-- A set reads as a list of rows. -/
structure ReadsAs (set : RecordSet) (db : Database) (b : Backend) (total : Nat)
    (rows : List Row) : Prop where
  /-- Every request is answered from the list, and makes the calls that are due. -/
  reply : ∀ requests (request : Request), ∃ s',
    Runs request.run (afterRequests requests ⟨set, db⟩)
        (.ok (request.reply set.table total rows)) s' ∧
      s'.database.calls =
        request.calls (afterRequests requests ⟨set, db⟩).self b total ++
          (afterRequests requests ⟨set, db⟩).database.calls
  /-- The rows are counted at most once. -/
  once : ∀ requests, ∃ calls,
    (afterRequests requests ⟨set, db⟩).database.calls = calls ++ db.calls ∧
      calls.count (.query (set.countStatement b)) ≤ 1
  /-- All rows that count are given in order, if they are whole. -/
  all : (∀ row ∈ rows, row.contains Record.idName ∧ 2 ≤ row.size) →
    ∀ requests, ∃ s' calls,
      Runs toRows (afterRequests requests ⟨set, db⟩) (.ok (rows.take (min total rows.length))) s' ∧
        s'.database.calls = calls ++ db.calls ∧
        calls.count (.query (set.countStatement b)) ≤ 1
  /-- Places are computed without a division by zero or an overflow, in words of any width. -/
  words : ∀ (w : Nat) (offset size : BitVec w), size.toNat = set.pageSize →
    size ≠ 0 ∧ (offset / size).toNat = offset.toNat / set.pageSize ∧
      (offset / size * size).toNat = offset.toNat / set.pageSize * set.pageSize ∧
      (offset % size).toNat = offset.toNat % set.pageSize

/-- The member at a place is that at its remainder on the page of its quotient. -/
lemma getElem?_page {α : Type} (l : List α) (offset : Nat) {size : Nat} (hsize : 0 < size) :
    ((l.drop (offset / size * size)).take size)[offset % size]? = l[offset]? := by
  rw [List.getElem?_take_of_lt (Nat.mod_lt offset hsize), List.getElem?_drop,
    Nat.div_add_mod']

/-- A place holds a row, or the record made of it that nothing was done with. -/
inductive Shown (table : String) (row : Row) : Slot Record → Prop where
  | raw : Shown table row (.raw row)
  | record : Shown table row (.record (.ofRow table row))

/-- The record of a place is the one made of its row. -/
lemma Shown.toRecord {table : String} {row : Row} {slot : Slot Record}
    (h : Shown table row slot) : slot.toRecord table = .ofRow table row := by
  cases h with
  | raw => rfl
  | record => rfl

/-- Places that hold some rows give the records made of these. -/
lemma map_toRecord_of_shown {table : String} {rows : List Row} {slots : List (Slot Record)}
    (h : List.Forall₂ (Shown table) rows slots) :
    slots.map (Slot.toRecord table) = rows.map (.ofRow table) := by
  induction h with
  | nil => rfl
  | cons hslot _ ih => rw [List.map_cons, List.map_cons, hslot.toRecord, ih]

/-- A page that is fetched holds its rows. -/
lemma shown_raw (table : String) (rows : List Row) :
    List.Forall₂ (Shown table) rows (rows.map .raw) := by
  rw [List.forall₂_map_right_iff, List.forall₂_same]
  intro row _
  exact .raw

/-- The places of the page kept hold some rows still if a record takes the place that it was made of. -/
lemma shown_putRecord {set : RecordSet} {page : Page Record} {table : String} {rows : List Row}
    {offset : Nat} {slot : Slot Record} (hpage : set.page = some page)
    (h : List.Forall₂ (Shown table) rows page.slots) (hslot : set.slot? offset = some slot) :
    List.Forall₂ (Shown table) rows
      (page.slots.set (offset % set.pageSize) (.record (slot.toRecord table))) := by
  apply forall₂_putRecord hpage h
  intro row slot' hslot' hshown
  obtain rfl : slot = slot' := Option.some.inj (hslot.symm.trans hslot')
  rw [hshown.toRecord]
  exact .record

/-- A page is not fetched by the statement that counts. -/
lemma pageCall_ne_countCall (set : RecordSet) (b : Backend) (index : Nat) :
    Call.query (set.pageStatement index b) ≠ .query (set.countStatement b) := by
  intro heq
  exact Sql.pageSql_ne_countSql _ _ _ _ _ _ _ (Call.query.inj heq)

/-- A set on the way through a list: it has the specification of `set`, its database serves the
answers, what it keeps is of the list, and the rows were counted once if their number is known. -/
structure Showing (set : RecordSet) (b : Backend) (answer : String → Except String (List Row))
    (total : Nat) (rows : List Row) (since : List Call) (s : Focus RecordSet) : Prop where
  same : s.self.invalidate = set.invalidate
  serves : s.database.Serves b answer
  total : ∀ n, s.self.total = some n → n = total
  counted : s.self.page.isSome → s.self.total.isSome
  page : ∀ page, s.self.page = some page →
    List.Forall₂ (Shown set.table) ((rows.drop (page.index * set.pageSize)).take set.pageSize)
      page.slots
  once : ∃ calls, s.database.calls = calls ++ since ∧
    calls.count (.query (set.countStatement b)) ≤ if s.self.total.isSome then 1 else 0

section Showing
variable {set : RecordSet} {b : Backend} {answer : String → Except String (List Row)} {total : Nat}
  {rows : List Row} {since : List Call} {s s' : Focus RecordSet}

/-- A set on the way through a list has the table of the one that it comes from. -/
lemma Showing.table_eq (h : Showing set b answer total rows since s) :
    s.self.table = set.table :=
  table_congr h.same

/-- A set on the way through a list has the page size of the one that it comes from. -/
lemma Showing.pageSize_eq (h : Showing set b answer total rows since s) :
    s.self.pageSize = set.pageSize :=
  pageSize_congr h.same

/-- A set on the way through a list is counted by the statement of the one that it comes from. -/
lemma Showing.countStatement_eq (h : Showing set b answer total rows since s) :
    s.self.countStatement = set.countStatement :=
  countStatement_congr h.same

/-- A set on the way through a list fetches its pages by the statements of the one that it comes from.
-/
lemma Showing.pageStatement_eq (h : Showing set b answer total rows since s) (index : Nat) :
    s.self.pageStatement index = set.pageStatement index :=
  congrFun (pageStatement_congr h.same) index

/-- The calls for a place are those that the page of the place takes, if it is not kept. -/
lemma Showing.pageCalls_eq (h : Showing set b answer total rows since s) (offset : Nat) :
    s.self.pageCalls b total offset =
      if offset < total ∧ s.self.page.map Page.index ≠ some (offset / set.pageSize) then
        [.query (set.pageStatement (offset / set.pageSize) b)]
      else [] := by
  rw [pageCalls, h.pageSize_eq, h.pageStatement_eq]

/-- The rows are counted once, and their number is that of the list. -/
lemma counting_of_showing (hlists : Lists answer set b total rows)
    (h : Showing set b answer total rows since s) {r : Except Error Nat}
    (hcounting : Counting s r s') :
    r = .ok total ∧ Showing set b answer total rows since s' ∧ s'.self.total = some total ∧
      s'.self.page = s.self.page ∧ s'.database.calls = s.self.countCalls b ++ s.database.calls := by
  obtain ⟨counted, hcounted, rfl⟩ := hlists.count
  rw [← h.countStatement_eq] at hcounted
  cases hcounting with
  | @known n hn =>
    obtain rfl := h.total n hn
    exact ⟨rfl, h, hn, rfl, by simp [countCalls, hn]⟩
  | @counted got db hnone hasking =>
    obtain ⟨hgot, hserves, hcalls⟩ := hasking.served h.serves hcounted
    cases hgot
    -- no page is kept while the number is unknown, so that counting gives none up
    have hpage : s.self.page = none := by
      cases hpage : s.self.page with
      | none => rfl
      | some page => simpa [hpage, hnone] using h.counted
    obtain ⟨calls, hsince, honce⟩ := h.once
    refine ⟨rfl, ⟨h.same, hserves, ?_, nofun, nofun, ?_⟩, rfl, hpage.symm, ?_⟩
    · intro n hn
      exact (Option.some.inj hn).symm
    · refine ⟨.query (set.countStatement b) :: calls, ?_, ?_⟩
      · rw [hcalls, hsince, h.countStatement_eq]
        rfl
      · have hzero : calls.count (.query (set.countStatement b)) = 0 := by
          simpa [hnone] using honce
        simp [hzero]
    · simp [countCalls, hnone, hcalls]
  | @failed e db hnone hasking =>
    obtain ⟨hgot, -⟩ := hasking.served h.serves hcounted
    cases hgot

/-- A page that is fetched is a slice of the list, and is fetched only if another one is kept. -/
lemma turning_of_showing (hlists : Lists answer set b total rows)
    (h : Showing set b answer total rows since s) (hcounted : s.self.total = some total)
    {offset : Nat} (hlt : offset < total) {r : Except Error Unit} (hturning : Turning s offset r s') :
    r = .ok () ∧ Showing set b answer total rows since s' ∧
      s'.self.page.map Page.index = some (offset / set.pageSize) ∧
      s'.database.calls = s.self.pageCalls b total offset ++ s.database.calls := by
  rw [h.pageCalls_eq]
  cases hturning with
  | kept hkept =>
    rw [h.pageSize_eq] at hkept
    exact ⟨rfl, h, hkept, by simp [hkept]⟩
  | turned hother hloading =>
    rw [h.pageSize_eq] at hother hloading
    have hpage := hlists.page (offset / set.pageSize)
    rw [← h.pageStatement_eq] at hpage
    cases hloading with
    | @loaded got db hasking =>
      obtain ⟨hgot, hserves, hcalls⟩ := hasking.served h.serves hpage
      cases hgot
      obtain ⟨calls, hsince, honce⟩ := h.once
      refine ⟨rfl, ⟨h.same, hserves, h.total, fun _ => by simp [hcounted], ?_, ?_⟩, rfl, ?_⟩
      · intro page hp
        obtain rfl := Option.some.inj hp
        exact shown_raw _ _
      · refine ⟨.query (set.pageStatement (offset / set.pageSize) b) :: calls, ?_, ?_⟩
        · rw [hcalls, hsince, h.pageStatement_eq]
          rfl
        · rw [List.count_cons_of_ne (set.pageCall_ne_countCall b _)]
          exact honce
      · rw [hcalls, h.pageStatement_eq, if_pos ⟨hlt, hother⟩]
        rfl
    | failed hasking =>
      obtain ⟨hgot, -⟩ := hasking.served h.serves hpage
      cases hgot

/-- A place on the page kept is that of the list. -/
lemma slot?_of_showing (h : Showing set b answer total rows since s) {offset : Nat}
    (hpage : s.self.page.map Page.index = some (offset / set.pageSize)) :
    (s.self.slot? offset).map (Slot.toRecord set.table) =
      rows[offset]?.map (.ofRow set.table) := by
  obtain ⟨page, hpage, hindex⟩ := Option.map_eq_some_iff.1 hpage
  have hslots := map_toRecord_of_shown (h.page page hpage)
  rw [slot?, hpage, Option.bind_some, h.pageSize_eq, ← List.getElem?_map, hslots, hindex,
    List.getElem?_map, getElem?_page rows offset set.pageSize_pos]

/-- A set goes on through the list if a record takes the place that it was made of. -/
lemma showing_putRecord (h : Showing set b answer total rows since s) {offset : Nat}
    {slot : Slot Record} (hslot : s.self.slot? offset = some slot) :
    Showing set b answer total rows since
      ⟨s.self.putRecord offset (slot.toRecord s.self.table), s.database⟩ := by
  refine ⟨h.same, h.serves, h.total, ?_, ?_, h.once⟩
  · intro hpage
    apply h.counted
    simpa [putRecord] using hpage
  · intro page' hp
    obtain ⟨page, hpage, rfl⟩ := Option.map_eq_some_iff.1 hp
    rw [h.table_eq]
    exact shown_putRecord hpage (h.page page hpage) hslot

/-- A record that is looked up is that of the list. -/
lemma looking_of_showing (hlists : Lists answer set b total rows)
    (h : Showing set b answer total rows since s) {offset : Nat}
    {r : Except Error (Option Record)} (hlooking : Looking s offset r s') :
    r = .ok (listed set.table total rows offset) ∧ Showing set b answer total rows since s' ∧
      s'.database.calls =
        s.self.pageCalls b total offset ++ s.self.countCalls b ++ s.database.calls := by
  cases hlooking with
  | uncounted hcounting =>
    obtain ⟨hr, -⟩ := counting_of_showing hlists h hcounting
    cases hr
  | beyond hcounting hle =>
    obtain ⟨hr, h₁, htotal, hpage, hcalls⟩ := counting_of_showing hlists h hcounting
    cases hr
    refine ⟨?_, h₁, ?_⟩
    · rw [listed, if_neg (Nat.not_lt.2 hle)]
    · rw [hcalls, pageCalls, if_neg fun hdue => Nat.not_lt.2 hle hdue.1]
      rfl
  | unloaded hcounting hlt hturning =>
    obtain ⟨hr, h₁, htotal, hpage, hcalls⟩ := counting_of_showing hlists h hcounting
    cases hr
    obtain ⟨hr, -⟩ := turning_of_showing hlists h₁ htotal hlt hturning
    cases hr
  | missing hcounting hlt hturning hslot =>
    obtain ⟨hr, h₁, htotal, hpage, hcalls⟩ := counting_of_showing hlists h hcounting
    cases hr
    obtain ⟨-, h₂, hindex, hcalls₂⟩ := turning_of_showing hlists h₁ htotal hlt hturning
    refine ⟨?_, h₂, ?_⟩
    · rw [listed, if_pos hlt, ← slot?_of_showing h₂ hindex, hslot]
      rfl
    · rw [hcalls₂, hcalls, h₁.pageCalls_eq, h.pageCalls_eq, hpage, List.append_assoc]
  | found hcounting hlt hturning hslot =>
    obtain ⟨hr, h₁, htotal, hpage, hcalls⟩ := counting_of_showing hlists h hcounting
    cases hr
    obtain ⟨-, h₂, hindex, hcalls₂⟩ := turning_of_showing hlists h₁ htotal hlt hturning
    refine ⟨?_, showing_putRecord h₂ hslot, ?_⟩
    · rw [listed, if_pos hlt, ← slot?_of_showing h₂ hindex, hslot, h₂.table_eq]
      rfl
    · rw [hcalls₂, hcalls, h₁.pageCalls_eq, h.pageCalls_eq, hpage, List.append_assoc]

/-- An item of a walk is the record of the list at the walk's place. -/
lemma taking_of_showing (hlists : Lists answer set b total rows)
    (h : Showing set b answer total rows since s) {walk : Walk}
    {r : Except Error (Option (Except Error Record) × Walk)} (hrun : Runs walk.next? s r s') :
    (∃ item, r = .ok item ∧
      Reply.item item.1 item.2 = (Request.next walk).reply set.table total rows) ∧
      Showing set b answer total rows since s' ∧
      s'.database.calls = (Request.next walk).calls s.self b total ++ s.database.calls := by
  obtain ⟨hfailed, rfl, rfl⟩ | ⟨hfailed, o, hlooking, rfl⟩ := taking_of_runs hrun
  · refine ⟨⟨_, rfl, ?_⟩, h, ?_⟩
    · simp [Request.reply, hfailed]
    · simp [Request.calls, hfailed]
  · obtain ⟨rfl, h', hcalls⟩ := looking_of_showing hlists h hlooking
    refine ⟨⟨_, rfl, ?_⟩, h', ?_⟩
    · cases hlisted : listed set.table total rows walk.offset <;>
        simp [Request.reply, taken, hfailed, hlisted]
    · simp [Request.calls, hfailed, hcalls]

/-- A request is answered from the list, and makes the calls that are due. -/
lemma request_of_showing (hlists : Lists answer set b total rows)
    (h : Showing set b answer total rows since s) {request : Request} {r : Except Error Reply}
    (hrun : Runs request.run s r s') :
    r = .ok (request.reply set.table total rows) ∧ Showing set b answer total rows since s' ∧
      s'.database.calls = request.calls s.self b total ++ s.database.calls := by
  cases request with
  | count =>
    obtain ⟨o, rfl, hcount⟩ := runs_map.1 hrun
    obtain ⟨rfl, h', -, -, hcalls⟩ := counting_of_showing hlists h (counting_of_runs hcount)
    exact ⟨rfl, h', hcalls⟩
  | «at» offset =>
    obtain ⟨o, rfl, hat⟩ := runs_map.1 hrun
    obtain ⟨rfl, h', hcalls⟩ := looking_of_showing hlists h (looking_of_runs hat)
    exact ⟨rfl, h', hcalls⟩
  | next walk =>
    obtain ⟨o, rfl, hnext⟩ := runs_map.1 hrun
    obtain ⟨⟨item, rfl, hitem⟩, h', hcalls⟩ := taking_of_showing hlists h hnext
    exact ⟨congrArg Except.ok hitem, h', hcalls⟩

/-- After any requests a set is on its way through the list. -/
lemma showing_afterRequests (hlists : Lists answer set b total rows)
    (h : Showing set b answer total rows since s) (requests : List Request) :
    Showing set b answer total rows since (afterRequests requests s) :=
  keeps_foldl (fun _ _ _ _ hs hrun => (request_of_showing hlists hs hrun).2.1) requests h

/-- A whole row is the one that its record gives, without a call. -/
lemma runs_itemRow_ofRow {table : String} {row : Row} (hid : row.contains Record.idName)
    (hsize : 2 ≤ row.size) {db db' : Database} {r : Except Error Row}
    (h : Runs (itemRow (.ok (.ofRow table row))) db r db') : r = .ok row ∧ db' = db := by
  have hpersisted : (Record.ofRow table row).persisted = row := by
    simp [Record.ofRow, Record.ofPersisted, hid]
  have hlazy : (Record.ofRow table row).isLazy = false := by
    have hne : row.size ≠ 1 := by omega
    simp [Record.isLazy, Record.ofRow, Record.ofPersisted, hid, hne]
  have heffective : (Record.ofRow table row).effectiveRow = row := by
    ext1
    rw [Record.effectiveRow, hpersisted]
    simp [OrderedMap.mapEntries, Record.ofRow, Record.ofPersisted, OrderedMap.get?,
      OrderedMap.empty, Entries.get?]
  obtain ⟨t, ht, rfl⟩ := Focus.runs_on.1 h
  obtain ⟨e, -, hhydrate⟩ | ⟨_, s₁, hhydrate, hrest⟩ := runs_bind.1 ht
  · cases (Record.runs_hydrate hlazy hhydrate).1
  obtain ⟨-, rfl⟩ := Record.runs_hydrate hlazy hhydrate
  rw [Focus.runs_getSelf_bind, heffective] at hrest
  obtain ⟨rfl, rfl⟩ := runs_pure.1 hrest
  exact ⟨rfl, rfl⟩

/-- A walk from a place gives the rows from there on. -/
lemma walk_of_showing (hlists : Lists answer set b total rows)
    (hwhole : ∀ row ∈ rows, row.contains Record.idName ∧ 2 ≤ row.size) {offset limit : Nat}
    (hle : offset + limit ≤ total) (h : Showing set b answer total rows since s)
    {r : Except Error (List Row)}
    (hrun : Runs ((⟨offset, false⟩ : Walk).visit itemRow limit) s r s') :
    r = .ok ((rows.drop offset).take limit) ∧ Showing set b answer total rows since s' := by
  -- on the items still wanted, of which each may turn the page
  induction limit generalizing offset s r with
  | zero =>
    obtain ⟨rfl, rfl⟩ := runs_pure.1 hrun
    exact ⟨rfl, h⟩
  | succ limit ih =>
    obtain ⟨e, -, hnext⟩ | ⟨next, s₁, hnext, hrest⟩ := runs_bind.1 hrun
    · obtain ⟨⟨item, hitem, -⟩, -⟩ := taking_of_showing hlists h hnext
      cases hitem
    obtain ⟨⟨_, hnext, hitem⟩, h₁, -⟩ := taking_of_showing hlists h hnext
    cases hnext
    obtain ⟨item, walk⟩ := next
    have hlt : offset < total := by omega
    simp only [Request.reply, listed, hlt, if_true, Bool.false_eq_true, if_false,
      Reply.item.injEq] at hitem
    obtain ⟨rfl, rfl⟩ := hitem
    cases hrow : rows[offset]? with
    | none =>
      -- fewer rows than were counted
      simp only [hrow, Option.map_none, runs_pure] at hrest
      obtain ⟨rfl, rfl⟩ := hrest
      have hnil : rows.drop offset = [] := List.drop_eq_nil_of_le (List.getElem?_eq_none_iff.1 hrow)
      exact ⟨by rw [hnil, List.take_nil], h₁⟩
    | some row =>
      simp only [hrow, Option.map_some] at hrest
      obtain ⟨hlt', hget⟩ := List.getElem?_eq_some_iff.1 hrow
      have hmem : row ∈ rows := hget ▸ List.getElem_mem hlt'
      obtain ⟨e, db, -, hvisit, -⟩ | ⟨result, db, hvisit, hrest⟩ :=
        Focus.runs_onDatabase_bind.1 hrest
      · cases (runs_itemRow_ofRow (hwhole row hmem).1 (hwhole row hmem).2 hvisit).1
      obtain ⟨hresult, rfl⟩ := runs_itemRow_ofRow (hwhole row hmem).1 (hwhole row hmem).2 hvisit
      cases hresult
      obtain ⟨o, rfl, hwalk⟩ := runs_map.1 (by simpa using hrest)
      obtain ⟨rfl, h'⟩ := ih (by omega) h₁ hwalk
      refine ⟨?_, h'⟩
      rw [List.drop_eq_getElem_cons hlt', hget, List.take_succ_cons]
      rfl

/-- All rows of a list are given, if each is known as a whole. -/
lemma toRows_of_showing (hlists : Lists answer set b total rows)
    (hwhole : ∀ row ∈ rows, row.contains Record.idName ∧ 2 ≤ row.size)
    (h : Showing set b answer total rows since s) {r : Except Error (List Row)}
    (hrun : Runs toRows s r s') :
    r = .ok (rows.take (min total rows.length)) ∧
      Showing set b answer total rows since s' := by
  rw [toRows, takeRows, RecordSetOf.visit, if_neg nofun] at hrun
  obtain ⟨o, s₁, hcount, hrest⟩ := runs_attempt_bind.1 hrun
  obtain ⟨rfl, h₁, -⟩ := counting_of_showing hlists h (counting_of_runs hcount)
  have hwalk : Runs (Walk.start.visit itemRow total) s₁ r s' := hrest
  obtain ⟨rfl, h'⟩ := walk_of_showing hlists hwhole (by omega) h₁ hwalk
  exact ⟨by rw [List.drop_zero, List.take_eq_take_min], h'⟩

end Showing

/-- Quotients and remainders by the size of a page are those of the words that hold the numbers. -/
lemma words_of_pos {n : Nat} (hn : 0 < n) {w : Nat} (offset size : BitVec w)
    (hsize : size.toNat = n) :
    size ≠ 0 ∧ (offset / size).toNat = offset.toNat / n ∧
      (offset / size * size).toNat = offset.toNat / n * n ∧
      (offset % size).toNat = offset.toNat % n := by
  refine ⟨?_, ?_, ?_, ?_⟩
  · rintro rfl
    simp at hsize
    omega
  · rw [BitVec.toNat_udiv, hsize]
  · rw [BitVec.toNat_mul, BitVec.toNat_udiv, hsize]
    apply Nat.mod_eq_of_lt
    exact Nat.lt_of_le_of_lt (Nat.div_mul_le_self _ _) offset.isLt
  · rw [BitVec.toNat_umod, hsize]

/-- The pages of a set have the size that is asked for, or one row if that is none. -/
lemma pageSize_withPageSize (set : RecordSet) (size : Nat) :
    (set.withPageSize size).pageSize = if size = 0 then 1 else size := by
  simp only [withPageSize, invalidate]
  split <;> omega

/-- A set, with pages of any size, reads as the list that its database answers with. A page has one row
if it was asked to have none, and else as many as were asked for. -/
theorem readsAs_of_lists {db : Database} {b : Backend} {answer : String → Except String (List Row)}
    {set : RecordSet} {size total : Nat} {rows : List Row} (hserves : db.Serves b answer)
    (hlists : Lists answer (set.withPageSize size) b total rows) :
    (set.withPageSize size).pageSize = (if size = 0 then 1 else size) ∧
      ReadsAs (set.withPageSize size) db b total rows := by
  -- a size that is set gives up what was kept, so that nothing is claimed of the set at first
  have hstart : Showing (set.withPageSize size) b answer total rows db.calls
      ⟨set.withPageSize size, db⟩ := by
    refine ⟨rfl, hserves, nofun, nofun, nofun, [], rfl, ?_⟩
    exact Nat.zero_le _
  have hshowing := showing_afterRequests hlists hstart
  refine ⟨pageSize_withPageSize set size, ?_, ?_, ?_, ?_⟩
  · intro requests request
    obtain ⟨r, s', hrun⟩ := exists_runs request.run
      (afterRequests requests ⟨set.withPageSize size, db⟩)
    obtain ⟨rfl, -, hcalls⟩ := request_of_showing hlists (hshowing requests) hrun
    exact ⟨s', hrun, hcalls⟩
  · intro requests
    obtain ⟨calls, hcalls, honce⟩ := (hshowing requests).once
    exact ⟨calls, hcalls, by split at honce <;> omega⟩
  · intro hwhole requests
    obtain ⟨r, s', hrun⟩ := exists_runs toRows
      (afterRequests requests ⟨set.withPageSize size, db⟩)
    obtain ⟨rfl, h'⟩ := toRows_of_showing hlists hwhole (hshowing requests) hrun
    obtain ⟨calls, hcalls, honce⟩ := h'.once
    exact ⟨s', calls, hrun, hcalls, by split at honce <;> omega⟩
  · intro w offset wordSize hsize
    exact words_of_pos (set.withPageSize size).pageSize_pos offset wordSize hsize

/-- The answers to a set's statements from a list: rows that tell how many there are, and slices. -/
def listing (set : RecordSet) (b : Backend) (counted rows : List Row) (sql : String) :
    Except String (List Row) :=
  if sql = set.countStatement b then .ok counted
  else
    match (List.range rows.length).find? fun index => sql = set.pageStatement index b with
    | some index => .ok ((rows.drop (index * set.pageSize)).take set.pageSize)
    | none => .ok []

/-- Different pages have different statements. -/
lemma pageStatement_injective (set : RecordSet) (b : Backend) :
    Function.Injective fun index => set.pageStatement index b := by
  intro i j heq
  have hstart := Sql.pageSql_injective b set.table set.filters set.sorts set.pageSize set.dedup heq
  exact Nat.eq_of_mul_eq_mul_right set.pageSize_pos hstart

/-- Every list can be served. -/
lemma lists_listing (set : RecordSet) (b : Backend) (counted rows : List Row) :
    Lists (listing set b counted rows) set b (countOf counted) rows := by
  refine ⟨⟨counted, if_pos rfl, rfl⟩, ?_⟩
  intro index
  have hcount : set.pageStatement index b ≠ set.countStatement b :=
    fun heq => set.pageCall_ne_countCall b index (congrArg Call.query heq)
  rw [listing, if_neg hcount]
  cases hfound : (List.range rows.length).find?
      fun other => set.pageStatement index b = set.pageStatement other b with
  | some other =>
    have hsame := List.find?_some hfound
    obtain rfl := pageStatement_injective set b (by simpa using hsame)
    rfl
  | none =>
    have hnone := List.find?_eq_none.1 hfound
    -- a page that is not among as many as there are rows starts past the last one
    have hpast : rows.length ≤ index := by
      by_contra hlt
      exact hnone index (List.mem_range.2 (Nat.lt_of_not_le hlt)) (by simp)
    have hlong : rows.length ≤ index * set.pageSize :=
      Nat.le_trans hpast (Nat.le_mul_of_pos_right index set.pageSize_pos)
    rw [List.drop_eq_nil_of_le hlong, List.take_nil]

/-- Three rows of a table of widgets. -/
def widgets : List Row :=
  [("nut", 1), ("bolt", 2), ("gear", 3)].map fun (name, id) =>
    .ofList [("id", .int id), ("name", .text name)]

/-- A database that answers the statements for pages of two widgets. -/
def widgetDatabase : Database :=
  .ofDrivers
    { backend := .sqlite
      databaseName := "widgets"
      serverVersion := .error "unknown"
      queryRows := fun _ =>
        listing ((ofTable "widget").withPageSize 2) .sqlite [.ofList [("count", .int 3)]] widgets
      listTables := fun _ => .ok ["widget"]
      nativeColumns := fun _ _ => .ok [] }
    none ⟨fun _ => none, fun _ => .error "missing", fun _ => .error "missing"⟩ .forgetful

/-- Three widgets are read on two pages, the second of which is short. -/
theorem readsAs_widgets :
    widgetDatabase.Serves .sqlite
        (listing ((ofTable "widget").withPageSize 2) .sqlite [.ofList [("count", .int 3)]] widgets) ∧
      Lists (listing ((ofTable "widget").withPageSize 2) .sqlite [.ofList [("count", .int 3)]] widgets)
        ((ofTable "widget").withPageSize 2) .sqlite 3 widgets ∧
      (∀ row ∈ widgets, row.contains Record.idName ∧ 2 ≤ row.size) ∧
      ((ofTable "widget").withPageSize 2 : RecordSet).pageSize = 2 ∧
      ReadsAs ((ofTable "widget").withPageSize 2) widgetDatabase .sqlite 3 widgets := by
  have hserves : widgetDatabase.Serves .sqlite
      (listing ((ofTable "widget").withPageSize 2) .sqlite [.ofList [("count", .int 3)]] widgets) :=
    ⟨_, .inl rfl, rfl, fun _ _ => rfl⟩
  have hlists := lists_listing ((ofTable "widget").withPageSize 2) .sqlite
    [.ofList [("count", .int 3)]] widgets
  exact ⟨hserves, hlists, by decide, readsAs_of_lists hserves hlists⟩

end RecordSetOf
end RecordAccess
