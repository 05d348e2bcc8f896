import Mathlib.Data.List.Forall2
import RecordAccess.Proofs.Use.Extension

/-!
# What a set keeps is current

A set keeps the number of its rows and a page of them. Both were answered by the database to the
statements that the set has now: `Coherent` says so for the table, filters, sorts, page size and
treatment of repeated rows that the set has at the moment, whatever it had before. Of a page also the
order of the rows is kept, and what became of them: a place holds the row of the answer, or the
record made of it as it is after all that was done with it (`Slot.Holds`).

Changes of the specification give up what was fetched (`coherent_of_invalid`), what is fetched is
current (`coherent_of_counting`, `coherent_of_loading`), and the uses of a record at a place change
that place alone (`coherent_putRecord`). The headline `coherent_afterUses` says that the set of a
table is coherent after any uses.
-/

namespace RecordAccess
open Access Database

/-- A record and what became of it after some uses, of it or of objects in reach of it. -/
inductive Record.Edited (r : Record) : Record → Prop where
  | refl : Edited r r
  | use {r₁ r₂ db db' path operation outcome} :
    Edited r r₁ →
    Runs (Entity.reach path operation) ⟨.one r₁, db⟩ outcome ⟨.one r₂, db'⟩ →
    Edited r r₂

/-- A place on a page holds a row, or the record made of it. -/
inductive Slot.Holds (table : String) (row : Row) : Slot Record → Prop where
  | raw : Holds table row (.raw row)
  | record {r} : Record.Edited (.ofRow table row) r → Holds table row (.record r)

/-- The record made of a place is one of the place's row. -/
lemma Slot.Holds.toRecord {table : String} {row : Row} {slot : Slot Record}
    (h : Slot.Holds table row slot) : Slot.Holds table row (.record (slot.toRecord table)) := by
  cases h with
  | raw => exact .record .refl
  | record hedited => exact .record hedited

namespace RecordSetOf

/-- What a set keeps was answered by its database, after the calls in `since`, to the statements that
the set has now. -/
structure Coherent (since : List Call) (s : Focus RecordSet) : Prop where
  later : since <:+ s.database.calls
  total : ∀ n, s.self.total = some n →
    ∃ rows, Answered since s.database s.self.countStatement rows ∧ countOf rows = n
  counted : s.self.page.isSome → s.self.total.isSome
  page : ∀ page, s.self.page = some page →
    ∃ rows, Answered since s.database (s.self.pageStatement page.index) rows ∧
      List.Forall₂ (Slot.Holds s.self.table) rows page.slots

variable {since : List Call} {s s' : Focus RecordSet}

/-- A set that keeps nothing is coherent. -/
lemma coherent_of_invalid (hlater : since <:+ s.database.calls) (htotal : s.self.total = none)
    (hpage : s.self.page = none) : Coherent since s := by
  refine ⟨hlater, ?_, ?_, ?_⟩
  · intro n hn
    rw [htotal] at hn
    cases hn
  · rw [hpage]
    nofun
  · intro page hp
    rw [hpage] at hp
    cases hp

/-- A set stays coherent whatever is done with its database. -/
lemma Coherent.extends (h : Coherent since s) {db : Database} (hdb : Extends s.database db) :
    Coherent since ⟨s.self, db⟩ := by
  refine ⟨h.later.trans hdb.calls, ?_, h.counted, ?_⟩
  · intro n hn
    obtain ⟨rows, hrows, hcount⟩ := h.total n hn
    exact ⟨rows, hrows.extends hdb, hcount⟩
  · intro page hp
    obtain ⟨rows, hrows, hslots⟩ := h.page page hp
    exact ⟨rows, hrows.extends hdb, hslots⟩

/-- Rows that are counted are those of the set, and no page is kept from before. -/
lemma coherent_of_counting (h : Coherent since s) {r : Except Error Nat}
    (hcounting : Counting s r s') : Coherent since s' := by
  cases hcounting with
  | known _ => exact h
  | failed _ hasking => exact h.extends hasking.extends
  | @counted rows db hnone hasking =>
    refine ⟨h.later.trans hasking.extends.calls, ?_, nofun, nofun⟩
    intro n hn
    obtain rfl : countOf rows = n := by simpa using hn
    exact ⟨rows, hasking.answered_since h.later, rfl⟩

/-- After counting that does not fail the number of rows is known. -/
lemma Counting.total_eq {total : Nat} (h : Counting s (.ok total) s') :
    s'.self.total = some total := by
  cases h with
  | known htotal => exact htotal
  | counted _ _ => rfl

/-- A page that is loaded holds the rows of the answer. -/
lemma coherent_of_loading (h : Coherent since s) (hcounted : s.self.total.isSome) {index : Nat}
    {r : Except Error Unit} (hloading : Loading s index r s') : Coherent since s' := by
  cases hloading with
  | failed hasking => exact h.extends hasking.extends
  | @loaded rows db hasking =>
    refine ⟨h.later.trans hasking.extends.calls, (h.extends hasking.extends).total,
      fun _ => hcounted, ?_⟩
    intro page hp
    obtain rfl : ⟨index, rows.map .raw⟩ = page := by simpa using hp
    -- no place of a new page was read yet
    refine ⟨rows, hasking.answered_since h.later, ?_⟩
    rw [List.forall₂_map_right_iff, List.forall₂_same]
    intro row _
    exact .raw

/-- To turn a page leaves a set coherent if its rows are counted. -/
lemma coherent_of_turning (h : Coherent since s) (hcounted : s.self.total.isSome) {offset : Nat}
    {r : Except Error Unit} (hturning : Turning s offset r s') : Coherent since s' := by
  cases hturning with
  | kept _ => exact h
  | turned _ hloading => exact coherent_of_loading h hcounted hloading

/-- A set stays coherent if a record takes a place whose row it was made of. -/
lemma coherent_putRecord (h : Coherent since s) {offset : Nat} {record : Record}
    (hrecord : ∀ row slot, s.self.slot? offset = some slot → Slot.Holds s.self.table row slot →
      Slot.Holds s.self.table row (.record record)) :
    Coherent since ⟨s.self.putRecord offset record, s.database⟩ := by
  refine ⟨h.later, h.total, ?_, ?_⟩
  · intro hpage
    apply h.counted
    simpa [putRecord] using hpage
  · intro page' hp
    obtain ⟨page, hpage, rfl⟩ := Option.map_eq_some_iff.1 hp
    obtain ⟨rows, hrows, hslots⟩ := h.page page hpage
    exact ⟨rows, hrows, forall₂_putRecord hpage hslots hrecord⟩

/-- To look up a record leaves a set coherent. -/
lemma coherent_of_looking (h : Coherent since s) {offset : Nat}
    {r : Except Error (Option Record)} (hlooking : Looking s offset r s') : Coherent since s' := by
  cases hlooking with
  | uncounted hcounting => exact coherent_of_counting h hcounting
  | beyond hcounting _ => exact coherent_of_counting h hcounting
  | unloaded hcounting _ hturning =>
    exact coherent_of_turning (coherent_of_counting h hcounting)
      (Option.isSome_of_eq_some hcounting.total_eq) hturning
  | missing hcounting _ hturning _ =>
    exact coherent_of_turning (coherent_of_counting h hcounting)
      (Option.isSome_of_eq_some hcounting.total_eq) hturning
  | found hcounting _ hturning hslot =>
    -- the record is put back where it was, made of the same row
    apply coherent_putRecord (coherent_of_turning (coherent_of_counting h hcounting)
      (Option.isSome_of_eq_some hcounting.total_eq) hturning)
    intro row slot hslot' hholds
    obtain rfl : _ = slot := Option.some.inj (hslot.symm.trans hslot')
    exact hholds.toRecord

/-- A record that is found stands in its place from then on. -/
lemma Looking.slot?_eq {offset : Nat} {record : Record} (h : Looking s offset (.ok (some record)) s') :
    s'.self.slot? offset = some (.record record) := by
  cases h with
  | found _ _ _ hslot => exact slot?_putRecord _ hslot

/-- To count leaves a set coherent. -/
lemma keeps_coherent_count : Keeps (Coherent since) count :=
  fun _ _ _ hs h => coherent_of_counting hs (counting_of_runs h)

/-- To ask for a record leaves a set coherent. -/
lemma keeps_coherent_at? (offset : Nat) : Keeps (Coherent since) (at? offset) :=
  fun _ _ _ hs h => coherent_of_looking hs (looking_of_runs h)

/-- What is done with the database leaves a set coherent. -/
lemma keeps_coherent_onDatabase {α : Type} {op : Access Database α}
    (hop : ∀ db₀, Keeps (Extends db₀) op) : Keeps (Coherent since) (Focus.onDatabase op) := by
  intro s r s' hs h
  obtain ⟨db, hdb, rfl⟩ := Focus.runs_onDatabase.1 h
  exact hs.extends (hop s.database s.database r db (.refl _) hdb)

/-- To take rows leaves a set coherent. -/
lemma keeps_coherent_takeRows (limit : Option Nat) : Keeps (Coherent since) (takeRows limit) :=
  keeps_takeRows keeps_coherent_count keeps_coherent_at?
    (fun item => keeps_coherent_onDatabase fun _ => keeps_itemRow item) limit

/-- A change that gives up what was fetched leaves a set coherent. -/
lemma keeps_coherent_modifySelf {change : RecordSet → RecordSet}
    (htotal : ∀ set, (change set).total = none) (hpage : ∀ set, (change set).page = none) :
    Keeps (Coherent since) (Focus.modifySelf change) :=
  keeps_modify fun s hs => coherent_of_invalid hs.later (htotal s.self) (hpage s.self)

/-- A filter that is taken away takes what was fetched with it. -/
lemma keeps_coherent_removeFilter (key : String) :
    Keeps (Coherent since) (Focus.modifySelf fun set => (set.removeFilter key).2) := by
  apply keeps_modify
  intro s hs
  cases hkey : s.self.filters.get? key with
  -- nothing is taken away, and nothing is given up
  | none => simpa [removeFilter, hkey] using hs
  | some value =>
    have htotal : (s.self.removeFilter key).2.total = none := by
      simp [removeFilter, hkey, RecordSetOf.invalidate]
    have hpage : (s.self.removeFilter key).2.page = none := by
      simp [removeFilter, hkey, RecordSetOf.invalidate]
    exact coherent_of_invalid hs.later htotal hpage

/-- Every operation on a set leaves it coherent. -/
lemma keeps_coherent_operation (operation : RecordSetOf.Operation) :
    Keeps (Coherent since) operation.run := by
  unfold Operation.run
  cases operation with
  | addFilter key value => exact keeps_coherent_modifySelf (fun _ => rfl) fun _ => rfl
  | removeFilter key => exact keeps_coherent_removeFilter key
  | withFilters filters => exact keeps_coherent_modifySelf (fun _ => rfl) fun _ => rfl
  | sortBy key direction => exact keeps_coherent_modifySelf (fun _ => rfl) fun _ => rfl
  | withPageSize size => exact keeps_coherent_modifySelf (fun _ => rfl) fun _ => rfl
  | withDedup dedup => exact keeps_coherent_modifySelf (fun _ => rfl) fun _ => rfl
  | invalidate => exact keeps_coherent_modifySelf (fun _ => rfl) fun _ => rfl
  | count => exact keeps_ignored keeps_coherent_count
  | «at» offset => exact keeps_ignored (keeps_coherent_at? offset)
  | next walk => exact keeps_ignored (keeps_next? keeps_coherent_at? walk)
  | rows limit => exact keeps_ignored (keeps_coherent_takeRows limit)
  | text indent =>
    refine keeps_ignored (keeps_bind (keeps_coherent_takeRows none) fun rows => ?_)
    exact keeps_bind (keeps_bind keeps_get fun _ => keeps_pure _) fun set => keeps_pure _

end RecordSetOf

namespace Entity
open RecordSetOf
variable {since : List Call}

/-- The object is a record. -/
def IsRecord (s : Focus Entity) : Prop := ∃ record, s.self = .one record

/-- The object is a set that is coherent. -/
def CoherentSet (since : List Call) (s : Focus Entity) : Prop :=
  ∃ set, s.self = .many set ∧ Coherent since ⟨set, s.database⟩

/-- An operation on a record leaves it a record. -/
lemma keeps_isRecord_onRecord {α : Type} (record : Record) (op : Access (Focus Record) α) :
    Keeps IsRecord (onRecord record op) := by
  intro s r s' _ h
  obtain ⟨t, -, rfl⟩ := runs_onRecord.1 h
  exact ⟨t.self, rfl⟩

/-- Operations leave a record a record, since those on sets do not apply to it. -/
lemma keeps_isRecord_operation (operation : Entity.Operation) :
    Keeps IsRecord operation.run := by
  rintro s r s' ⟨record, hrecord⟩ h
  rw [Operation.run, Focus.runs_getSelf_bind, hrecord] at h
  cases operation with
  | record op => exact keeps_isRecord_onRecord record op.run s r s' ⟨record, hrecord⟩ h
  | set op => exact keeps_pure () s r s' ⟨record, hrecord⟩ h

/-- A step to another object leaves a record a record. -/
lemma keeps_isRecord_find? (step : Step) : Keeps IsRecord (find? step) := by
  rintro s r s' ⟨record, hrecord⟩ h
  rw [find?, Focus.runs_getSelf_bind, hrecord] at h
  cases step with
  | one field =>
    exact keeps_bind (keeps_isRecord_onRecord record _) (fun _ => keeps_pure _) s r s'
      ⟨record, hrecord⟩ h
  | many field =>
    exact keeps_bind (keeps_isRecord_onRecord record _) (fun _ => keeps_pure _) s r s'
      ⟨record, hrecord⟩ h
  | «at» offset => exact keeps_pure none s r s' ⟨record, hrecord⟩ h

/-- A record stays a record, whatever is done at the end of a path from it. -/
lemma keeps_isRecord_follow (path : List Step) (operation : Entity.Operation) :
    Keeps IsRecord (follow operation.run path) := by
  cases path with
  | nil => exact keeps_bind (keeps_isRecord_operation operation) fun _ => keeps_pure _
  | cons step path =>
    refine keeps_bind (keeps_isRecord_find? step) fun found => ?_
    cases found with
    | none => exact keeps_pure _
    | some inner =>
      rintro s r s' ⟨record, hrecord⟩ h
      obtain ⟨t, -, rfl⟩ := Focus.runs_onPart.1 h
      rw [hrecord]
      cases step with
      | one field => exact ⟨_, rfl⟩
      | many field => exact ⟨_, rfl⟩
      | «at» offset => cases t.self <;> exact ⟨_, rfl⟩

/-- A coherent set stays one, whatever is done with it. -/
lemma keeps_coherentSet_operation (operation : Entity.Operation) :
    Keeps (CoherentSet since) operation.run := by
  rintro s r s' ⟨set, hset, hcoherent⟩ h
  rw [Operation.run, Focus.runs_getSelf_bind, hset] at h
  cases operation with
  | record op => exact keeps_pure () s r s' ⟨set, hset, hcoherent⟩ h
  | set op =>
    obtain ⟨t, ht, rfl⟩ := runs_onSet.1 h
    exact ⟨t.self, rfl, keeps_coherent_operation op _ r t hcoherent ht⟩

/-- Only a place leads from a set to another object, the record that then stands there. -/
lemma find?_of_coherentSet {s s' : Focus Entity} {step : Step} {r : Except Error (Option Entity)}
    (hs : CoherentSet since s) (h : Runs (find? step) s r s') :
    CoherentSet since s' ∧ ∀ inner, r = .ok (some inner) →
      ∃ offset record set, step = .at offset ∧ inner = .one record ∧ s'.self = .many set ∧
        set.slot? offset = some (.record record) := by
  obtain ⟨set, hset, hcoherent⟩ := hs
  rw [find?, Focus.runs_getSelf_bind, hset] at h
  cases step with
  | one field =>
    obtain ⟨rfl, rfl⟩ := runs_pure.1 h
    exact ⟨⟨set, hset, hcoherent⟩, nofun⟩
  | many field =>
    obtain ⟨rfl, rfl⟩ := runs_pure.1 h
    exact ⟨⟨set, hset, hcoherent⟩, nofun⟩
  | «at» offset =>
    obtain ⟨e, rfl, hat⟩ | ⟨found, s₁, hat, hrest⟩ := runs_bind.1 h
    · obtain ⟨t, ht, rfl⟩ := runs_onSet.1 hat
      exact ⟨⟨t.self, rfl, coherent_of_looking hcoherent (looking_of_runs ht)⟩, nofun⟩
    obtain ⟨t, ht, rfl⟩ := runs_onSet.1 hat
    obtain ⟨rfl, rfl⟩ := runs_pure.1 hrest
    have hlooking := looking_of_runs ht
    refine ⟨⟨t.self, rfl, coherent_of_looking hcoherent hlooking⟩, ?_⟩
    intro inner hinner
    cases found with
    | none => cases hinner
    | some record =>
      cases hinner
      exact ⟨offset, record, t.self, rfl, rfl, rfl, hlooking.slot?_eq⟩

/-- A coherent set stays one, whatever is done at the end of a path from it. -/
lemma keeps_coherentSet_follow (path : List Step) (operation : Entity.Operation) :
    Keeps (CoherentSet since) (follow operation.run path) := by
  cases path with
  | nil => exact keeps_bind (keeps_coherentSet_operation operation) fun _ => keeps_pure _
  | cons step path =>
    intro s r s' hs h
    obtain ⟨e, -, hfind⟩ | ⟨found, s₁, hfind, hrest⟩ := runs_bind.1 h
    · exact (find?_of_coherentSet hs hfind).1
    obtain ⟨hs₁, hfound⟩ := find?_of_coherentSet hs hfind
    cases found with
    | none => exact keeps_pure _ s₁ r s' hs₁ hrest
    | some inner =>
      obtain ⟨offset, record, set, rfl, rfl, hset, hslot⟩ := hfound inner rfl
      obtain ⟨t, ht, rfl⟩ := Focus.runs_onPart.1 hrest
      obtain ⟨set', hset', hcoherent⟩ := hs₁
      obtain rfl : set = set' := by simpa [hset] using hset'
      -- what is done with the record extends the database, and leaves a record to put back
      have hdb : Extends s₁.database t.database :=
        keeps_follow (keeps_operation operation) path ⟨.one record, s₁.database⟩ r t (.refl _) ht
      obtain ⟨record', hrecord'⟩ := keeps_isRecord_follow path operation _ r t ⟨record, rfl⟩ ht
      refine ⟨set.putRecord offset record', by rw [hset, hrecord']; rfl, ?_⟩
      apply coherent_putRecord (hcoherent.extends hdb)
      intro row slot hslot' hholds
      obtain rfl : Slot.record record = slot := Option.some.inj (hslot.symm.trans hslot')
      have hreach : Runs (reach path operation) ⟨.one record, s₁.database⟩ (r.map fun _ => ())
          ⟨.one record', t.database⟩ := by
        rw [← hrecord']
        exact runs_ignored ht
      cases hholds with
      | record hedited => exact .record (hedited.use hreach)

/-- Every use of a coherent set leaves it coherent. -/
lemma keeps_coherentSet_use (use : Use) : Keeps (CoherentSet since) use.run := by
  have hdatabase (op : Access Database Unit) (hop : ∀ db₀, Keeps (Extends db₀) op) :
      Keeps (CoherentSet since) (Focus.onDatabase op) := by
    rintro s r s' ⟨set, hset, hcoherent⟩ h
    obtain ⟨db, hdb, rfl⟩ := Focus.runs_onDatabase.1 h
    exact ⟨set, hset, hcoherent.extends (hop s.database s.database r db (.refl _) hdb)⟩
  cases use with
  | here path operation => exact keeps_ignored (keeps_coherentSet_follow path operation)
  | elsewhere other path operation =>
    exact hdatabase _ fun _ => Focus.keeps_on (keeps_reach path operation)
  | database operation => exact hdatabase _ fun _ => Database.keeps_operation operation

/-- After any uses, the set of a table keeps what was answered, since it was made, to the statements
that it has then. -/
theorem coherent_afterUses (table : String) (db : Database) (uses : List Use) :
    ∃ set, (afterUses uses ⟨.many (.ofTable table), db⟩).self = .many set ∧
      Coherent db.calls ⟨set, (afterUses uses ⟨.many (.ofTable table), db⟩).database⟩ := by
  have hrun (s : Focus Entity) (hs : CoherentSet db.calls s) :
      CoherentSet db.calls (afterUses uses s) := by
    induction uses generalizing s with
    | nil => exact hs
    | cons use uses ih => exact ih _ (keeps_coherentSet_use use s _ _ hs rfl)
  apply hrun
  exact ⟨.ofTable table, rfl, coherent_of_invalid List.suffix_rfl rfl rfl⟩

end Entity
end RecordAccess
