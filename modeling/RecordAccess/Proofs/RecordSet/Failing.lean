import RecordAccess.Proofs.RecordSet.Interrupted
import RecordAccess.Proofs.Use.Reached

/-!
# Sets that fail safely

A walk gives records and then at most one error, after which it does nothing more (`items_of_takes`). The
rows of a set are those of a walk that ends with the first item that there is no row for, which is what
counting the rows first comes to (`visits_of_toRows`). The headline `failsSafely_of_reached` collects what
a failure leaves of any set that a caller comes by.
-/

namespace RecordAccess
open Access Database

namespace RecordSetOf

/-- The items that a walk gives, one after another, whatever set and database each step finds. -/
inductive Takes : Walk → List (Option (Except Error Record)) → Walk → Prop
  | done (walk : Walk) :
    Takes walk [] walk
  | next {walk walk₁ walk' : Walk} {s s' : Focus RecordSet}
      {item : Option (Except Error Record)} {items : List (Option (Except Error Record))} :
    Runs walk.next? s (.ok (item, walk₁)) s' →
    Takes walk₁ items walk' →
    Takes walk (item :: items) walk'

/-- The next item of a walk is always had, be it an error. -/
lemma exists_item {walk : Walk} {s s' : Focus RecordSet}
    {r : Except Error (Option (Except Error Record) × Walk)} (h : Runs walk.next? s r s') :
    ∃ item walk', r = .ok (item, walk') := by
  obtain ⟨-, rfl, -⟩ | ⟨-, o, -, rfl⟩ := taking_of_runs h
  · exact ⟨_, _, rfl⟩
  · exact ⟨_, _, rfl⟩

/-- A walk that an error has ended gives no item and does nothing. -/
lemma ended_of_failed {walk : Walk} (hfailed : walk.failed = true) {s s' : Focus RecordSet}
    {r : Except Error (Option (Except Error Record) × Walk)} (h : Runs walk.next? s r s') :
    r = .ok (none, walk) ∧ s' = s := by
  obtain ⟨-, hended⟩ | ⟨hnot, -⟩ := taking_of_runs h
  · exact hended
  · cases hfailed.symm.trans hnot

/-- A walk that has failed gives nothing more. -/
lemma takes_of_failed {walk walk' : Walk} {items : List (Option (Except Error Record))}
    (h : Takes walk items walk') (hfailed : walk.failed = true) :
    walk' = walk ∧ ∃ n, items = List.replicate n none := by
  induction h with
  | done walk => exact ⟨rfl, 0, rfl⟩
  | next hnext _ ih =>
    obtain ⟨⟨⟩, rfl⟩ := ended_of_failed hfailed hnext
    obtain ⟨rfl, n, rfl⟩ := ih hfailed
    exact ⟨rfl, n + 1, rfl⟩

/-- A walk gives records and now and then no item, until an error ends it. -/
lemma items_of_takes {walk walk' : Walk} {items : List (Option (Except Error Record))}
    (h : Takes walk items walk') (hgoes : walk.failed = false) :
    ∃ before after, items = before ++ after ∧
      (∀ item ∈ before, item = none ∨ ∃ record, item = some (.ok record)) ∧
      (after = [] ∨ (∃ e n, after = some (.error e) :: List.replicate n none) ∧ walk'.failed = true) := by
  induction h with
  | done walk => exact ⟨[], [], rfl, nofun, .inl rfl⟩
  | @next walk walk₁ walk' s s' item items hnext htakes ih =>
    obtain ⟨hfailed, -⟩ | ⟨-, o, -, htaken⟩ := taking_of_runs hnext
    · cases hgoes.symm.trans hfailed
    have hmore (hitem : item = none ∨ ∃ record, item = some (.ok record))
        (hgoes₁ : walk₁.failed = false) :
        ∃ before after, item :: items = before ++ after ∧
          (∀ item ∈ before, item = none ∨ ∃ record, item = some (.ok record)) ∧
          (after = [] ∨
            (∃ e n, after = some (.error e) :: List.replicate n none) ∧ walk'.failed = true) := by
      obtain ⟨before, after, rfl, hbefore, hafter⟩ := ih hgoes₁
      exact ⟨item :: before, after, rfl, List.forall_mem_cons.2 ⟨hitem, hbefore⟩, hafter⟩
    cases o with
    | ok found =>
      cases found with
      | none =>
        cases htaken
        exact hmore (.inl rfl) rfl
      | some record =>
        cases htaken
        exact hmore (.inr ⟨record, rfl⟩) rfl
    | error e =>
      cases htaken
      obtain ⟨rfl, n, rfl⟩ := takes_of_failed htakes rfl
      exact ⟨[], _, rfl, nofun, .inr ⟨⟨e, n, rfl⟩, rfl⟩⟩

/-- A walk up to its end or the first item that there is no row for, with the items and what reading a
row of each comes to. -/
inductive Visits : Walk → Focus RecordSet → List (Except Error Record × Except Error Row) →
    Focus RecordSet → Prop
  | finished {walk walk' s s'} :
    Runs walk.next? s (.ok (none, walk')) s' →
    Visits walk s [] s'
  | failed {walk walk' s s₁ item e db} :
    Runs walk.next? s (.ok (some item, walk')) s₁ →
    Runs (itemRow item) s₁.database (.error e) db →
    Visits walk s [(item, .error e)] ⟨s₁.self, db⟩
  | read {walk walk₁ s s₁ s' item row db visits} :
    Runs walk.next? s (.ok (some item, walk₁)) s₁ →
    Runs (itemRow item) s₁.database (.ok row) db →
    Visits walk₁ ⟨s₁.self, db⟩ visits s' →
    Visits walk s ((item, .ok row) :: visits) s'

variable {s s₁ s' : Focus RecordSet}

/-- Rows that are counted stay counted when records are looked up. -/
lemma total_of_looking {offset total : Nat} {r : Except Error (Option Record)}
    (h : Looking s offset r s') (htotal : s.self.total = some total) :
    s'.self.total = some total := by
  obtain ⟨o, s₁, hcounting, hrest⟩ := h.phases
  have hcounted : s₁.self.total = some total := by
    cases hcounting with
    | known _ => exact htotal
    | counted hnone _ => simp [hnone] at htotal
    | failed _ _ => exact htotal
  obtain ⟨-, rfl⟩ | ⟨_, _, _, -, hturning, hsame, -⟩ := hrest
  · exact hcounted
  rw [hsame]
  cases hturning with
  | kept _ => exact hcounted
  | turned _ hloading => cases hloading <;> exact hcounted

/-- A set that was counted gives its number of rows as it is. -/
lemma runs_count_of_total {total : Nat} (h : s.self.total = some total) :
    Runs count s (.ok total) s := by
  rw [count, Focus.runs_getSelf_bind, h]
  exact runs_pure.2 ⟨rfl, rfl⟩

/-- To look up a record once the rows are counted is to look it up. -/
lemma runs_at?_of_count {offset total : Nat} {r : Except Error (Option Record)}
    (hcount : Runs count s (.ok total) s₁) (h : Runs (at? offset) s₁ r s') :
    Runs (at? offset) s r s' := by
  have hagain := runs_count_of_total (counting_of_runs hcount).total_eq
  obtain ⟨e, rfl, hfailed⟩ | ⟨total', s₂, hcount', hrest⟩ := runs_bind.1 h
  · cases (hagain.unique hfailed).1
  · obtain ⟨⟨⟩, rfl⟩ := hagain.unique hcount'
    exact runs_bind.2 (.inr ⟨total, s₂, hcount, hrest⟩)

/-- A walk that goes on takes its next item from a look-up at its offset. -/
lemma runs_next?_of_at? {walk : Walk} (hgoes : walk.failed = false)
    {o : Except Error (Option Record)} (h : Runs (at? walk.offset) s o s') :
    Runs walk.next? s (.ok (taken walk o)) s' := by
  unfold Walk.next?
  simp only [hgoes, Bool.false_eq_true, if_false]
  refine runs_attempt_bind.2 ⟨o, s', h, ?_⟩
  cases o with
  | ok found => cases found <;> exact runs_pure.2 ⟨rfl, rfl⟩
  | error e => exact runs_pure.2 ⟨rfl, rfl⟩

/-- A walk over rows that were counted just now is one over the set. -/
lemma visits_of_count {total : Nat} (hcount : Runs count s (.ok total) s₁)
    {visits : List (Except Error Record × Except Error Row)} {walk : Walk}
    (hgoes : walk.failed = false) (h : Visits walk s₁ visits s') : Visits walk s visits s' := by
  have hnext {r : Except Error (Option (Except Error Record) × Walk)} {s₂ : Focus RecordSet}
      (hnext : Runs walk.next? s₁ r s₂) : Runs walk.next? s r s₂ := by
    obtain ⟨o, s₃, hat⟩ := exists_runs (at? walk.offset) s₁
    obtain ⟨rfl, rfl⟩ := (runs_next?_of_at? hgoes hat).unique hnext
    exact runs_next?_of_at? hgoes (runs_at?_of_count hcount hat)
  cases h with
  | finished h => exact .finished (hnext h)
  | failed h hrow => exact .failed (hnext h) hrow
  | read h hrow hlater => exact .read (hnext h) hrow hlater

/-- Past the last row that counts there is no item. -/
lemma runs_next?_of_le {offset total : Nat} (htotal : s.self.total = some total)
    (hle : total ≤ offset) :
    Runs (⟨offset, false⟩ : Walk).next? s (.ok (none, ⟨offset + 1, false⟩)) s := by
  have hat : Runs (at? (⟨offset, false⟩ : Walk).offset) s (.ok none) s := by
    refine runs_bind.2 (.inr ⟨total, s, runs_count_of_total htotal, ?_⟩)
    simp [hle]
  exact runs_next?_of_at? rfl hat

/-- The rows that a bounded walk gives up to the last one that counts. -/
lemma visits_of_walk {offset limit total : Nat} (htotal : s.self.total = some total)
    (hlimit : offset + limit = total) {r : Except Error (List Row)}
    (h : Runs ((⟨offset, false⟩ : Walk).visit itemRow limit) s r s') :
    ∃ visits, Visits ⟨offset, false⟩ s visits s' ∧ r = visits.mapM Prod.snd := by
  -- on the items still wanted, which are those up to the last row that counts
  induction limit generalizing offset s r with
  | zero =>
    obtain ⟨rfl, rfl⟩ := runs_pure.1 h
    exact ⟨[], .finished (runs_next?_of_le htotal (by omega)), rfl⟩
  | succ limit ih =>
    obtain ⟨e, -, hnext⟩ | ⟨⟨item, walk⟩, s₁, hnext, hrest⟩ := runs_bind.1 h
    · obtain ⟨_, _, ⟨⟩⟩ := exists_item hnext
    cases item with
    | none =>
      obtain ⟨rfl, rfl⟩ := runs_pure.1 hrest
      exact ⟨[], .finished hnext, rfl⟩
    | some item =>
      obtain ⟨e, db, rfl, hrow, rfl⟩ | ⟨row, db, hrow, hlater⟩ := Focus.runs_onDatabase_bind.1 hrest
      · exact ⟨[(item, .error e)], .failed hnext hrow, rfl⟩
      obtain ⟨record, rfl, rfl, hlooking⟩ : ∃ record, item = .ok record ∧
          walk = ⟨offset + 1, false⟩ ∧ Looking s offset (.ok (some record)) s₁ := by
        obtain ⟨⟨⟩, -⟩ | ⟨-, o, hlooking, htaken⟩ := taking_of_runs hnext
        cases o with
        | ok found =>
          cases found with
          | none => cases htaken
          | some record =>
            cases htaken
            exact ⟨record, rfl, rfl, hlooking⟩
        | error e =>
          -- there is no row of an error
          cases htaken
          cases (runs_throw.1 hrow).1
      have htotal₁ := total_of_looking hlooking htotal
      obtain ⟨o, rfl, hwalk⟩ := runs_map.1 (by simpa using hlater)
      obtain ⟨visits, hvisits, rfl⟩ := ih (s := ⟨s₁.self, db⟩) htotal₁ (by omega) hwalk
      refine ⟨(.ok record, .ok row) :: visits, .read hnext hrow hvisits, ?_⟩
      rw [List.mapM_cons]
      cases visits.mapM Prod.snd <;> rfl

/-- To take all rows is to walk over the set up to the first item that there is no row for. -/
theorem visits_of_toRows {r : Except Error (List Row)} (h : Runs toRows s r s') :
    ∃ visits, Visits .start s visits s' ∧ r = visits.mapM Prod.snd := by
  rw [toRows, takeRows, RecordSetOf.visit, if_neg (Option.some_ne_none 0).symm] at h
  obtain ⟨o, s₁, hcount, hrest⟩ := runs_attempt_bind.1 h
  cases o with
  | ok total =>
    have htotal := (counting_of_runs hcount).total_eq
    obtain ⟨visits, hvisits, hr⟩ := visits_of_walk htotal (Nat.zero_add total) hrest
    exact ⟨visits, visits_of_count hcount rfl hvisits, hr⟩
  | error e =>
    have hat : Runs (at? Walk.start.offset) s (.error e) s₁ := runs_bind.2 (.inl ⟨e, rfl, hcount⟩)
    have hnext := runs_next?_of_at? rfl hat
    obtain ⟨e', db, rfl, hrow, rfl⟩ | ⟨row, db, hrow, -⟩ := Focus.runs_onDatabase_bind.1 hrest
    · exact ⟨[(.error e, .error e')], .failed hnext hrow, rfl⟩
    · cases (runs_throw.1 hrow).1

/-- All items of a list can be mapped if and only if each can. -/
lemma isOk_mapM_iff {α β : Type} {f : α → Except Error β} {l : List α} :
    (∃ bs, l.mapM f = .ok bs) ↔ ∀ a ∈ l, ∃ b, f a = .ok b := by
  induction l with
  | nil => exact ⟨nofun, fun _ => ⟨[], rfl⟩⟩
  | cons a l ih =>
    rw [List.forall_mem_cons, ← ih, List.mapM_cons]
    cases f a with
    | error e => exact ⟨nofun, nofun⟩
    | ok b =>
      cases l.mapM f with
      | error e => exact ⟨nofun, nofun⟩
      | ok bs => exact ⟨fun _ => ⟨⟨b, rfl⟩, bs, rfl⟩, fun _ => ⟨b :: bs, rfl⟩⟩

/-- Of an error there is no row. -/
lemma ok_of_itemRow {item : Except Error Record} {db db' : Database} {row : Row}
    (h : Runs (itemRow item) db (.ok row) db') : ∃ record, item = .ok record := by
  cases item with
  | ok record => exact ⟨record, rfl⟩
  | error e => cases (runs_throw.1 h).1

/-- An item whose row is read is a record. -/
lemma ok_of_visits {walk : Walk} {visits : List (Except Error Record × Except Error Row)}
    (h : Visits walk s visits s') {visit : Except Error Record × Except Error Row}
    (hvisit : visit ∈ visits) {row : Row} (hrow : visit.2 = .ok row) :
    ∃ record, visit.1 = .ok record := by
  induction h with
  | finished _ => cases hvisit
  | failed _ _ =>
    obtain rfl := List.mem_singleton.1 hvisit
    cases hrow
  | read _ hread _ ih =>
    obtain rfl | hlater := List.mem_cons.1 hvisit
    · exact ok_of_itemRow hread
    · exact ih hlater

/-- What is left of a set by failures, on whatever database they occur. -/
structure FailsSafely (set : RecordSet) : Prop where
  /-- To count in vain leaves the set as it was. -/
  count : ∀ db e s', Runs count ⟨set, db⟩ (.error e) s' → s'.self = set
  /-- To look up a record in vain leaves all of the set but the number of its rows, which may have been
  counted, and can be repeated from where it failed. -/
  look : ∀ db offset e s', Runs (at? offset) ⟨set, db⟩ (.error e) s' →
    s'.self = { set with total := s'.self.total } ∧
      (s'.self.total = set.total ∨
        set.total = none ∧ ∃ rows, Answered db.calls s'.database set.countStatement rows ∧
          s'.self.total = some (countOf rows)) ∧
      Resumes (at? offset) ⟨set, db⟩ e s'
  /-- The next item of a walk is had whatever fails. -/
  next : ∀ (walk : Walk) db r s', Runs walk.next? ⟨set, db⟩ r s' → ∃ item walk', r = .ok (item, walk')
  /-- A walk gives records, and at most one error, and from then on gives and does nothing. -/
  walk : ∀ items walk', Takes .start items walk' →
    ∃ before after, items = before ++ after ∧
      (∀ item ∈ before, item = none ∨ ∃ record, item = some (.ok record)) ∧
      (after = [] ∨ (∃ e n, after = some (.error e) :: List.replicate n none) ∧
        ∀ s r s', Runs walk'.next? s r s' → r = .ok (none, walk') ∧ s' = s)
  /-- All rows are had if no item is an error and there is a row of each record. -/
  rows : ∀ db r s', Runs toRows ⟨set, db⟩ r s' → ∃ visits,
    Visits .start ⟨set, db⟩ visits s' ∧ r = visits.mapM Prod.snd ∧
      ((∃ rows, r = .ok rows) ↔
        ∀ visit ∈ visits, (∃ record, visit.1 = .ok record) ∧ ∃ row, visit.2 = .ok row)

/-- A set that a caller comes by fails safely. -/
theorem failsSafely_of_reached {set : RecordSet} {db : Database}
    (h : Entity.Reached ⟨.many set, db⟩) : FailsSafely set := by
  have hcounted : set.page.isSome → set.total.isSome := by
    cases Entity.counted_of_reached h with
    | many hcounted _ => exact hcounted
  refine ⟨?_, ?_, ?_, ?_, ?_⟩
  · intro db e s' hcount
    cases counting_of_runs hcount with
    | failed _ _ => rfl
  · intro db offset e s' hat
    have hinterrupted := interrupted_of_runs (s := ⟨set, db⟩) hcounted hat
    obtain ⟨hself, htotal⟩ := hinterrupted.self_eq
    exact ⟨hself, htotal, resumes_of_interrupted hinterrupted⟩
  · exact fun walk db r s' hnext => exists_item hnext
  · intro items walk' htakes
    obtain ⟨before, after, hitems, hbefore, hafter⟩ := items_of_takes htakes rfl
    refine ⟨before, after, hitems, hbefore, hafter.imp_right fun ⟨hended, hfailed⟩ => ⟨hended, ?_⟩⟩
    exact fun s r s' hnext => ended_of_failed hfailed hnext
  · intro db r s' hrun
    obtain ⟨visits, hvisits, rfl⟩ := visits_of_toRows hrun
    refine ⟨visits, hvisits, rfl, ?_⟩
    rw [isOk_mapM_iff]
    constructor
    · intro hrows visit hvisit
      obtain ⟨row, hrow⟩ := hrows visit hvisit
      exact ⟨ok_of_visits hvisits hvisit hrow, row, hrow⟩
    · exact fun hall visit hvisit => (hall visit hvisit).2

/-- A database of three widgets that answers once. -/
def pagelessDatabase : Database :=
  .ofDrivers
    { backend := .sqlite
      databaseName := "widgets"
      serverVersion := .error "unknown"
      queryRows := fun history _ =>
        if history = [] then .ok [.ofList [("count", .int 3)]] else .error "disk I/O error"
      listTables := fun _ => .ok ["widget"]
      nativeColumns := fun _ _ => .ok [] }
    none ⟨fun _ => none, fun _ => .error "missing", fun _ => .error "missing"⟩ .forgetful

/-- The widgets and their database after the first of them was looked up in vain. -/
def countedWidgets : Focus Entity :=
  ((Entity.Use.here [] (.set (.at 0))).run.outcome ⟨.many (.ofTable "widget"), pagelessDatabase⟩).2

/-- Widgets that were counted in a look-up that failed fail safely from then on. -/
theorem failsSafely_countedWidgets :
    Entity.Reached ⟨.many { ofTable "widget" with total := some 3 }, countedWidgets.database⟩ ∧
      FailsSafely { ofTable "widget" with total := some 3 } := by
  have hself : countedWidgets.self = .many { ofTable "widget" with total := some 3 } := rfl
  have hreached : Entity.Reached countedWidgets := .use _ (.set "widget" pagelessDatabase)
  have hcounted :
      Entity.Reached ⟨.many { ofTable "widget" with total := some 3 }, countedWidgets.database⟩ := by
    rw [← hself]
    exact hreached
  exact ⟨hcounted, failsSafely_of_reached hcounted⟩

end RecordSetOf
end RecordAccess
