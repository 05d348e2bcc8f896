import RecordAccess.Proofs.Record.Relations
import RecordAccess.Proofs.RecordSet.Coherence

/-!
# Objects that a caller comes by

A caller makes sets of tables and records, uses them, and takes steps from one object to another
(`Reached`). In all of these, and in the objects that they keep, a set that keeps a page knows the number
of its rows (`counted_of_reached`): uses keep this whether they fail or not, and related objects begin
without a page.
-/

namespace RecordAccess
open Access

namespace Entity

/-- What a caller comes by: a set of a table or a record, what becomes of an object by a use, and what
a step leads to. -/
inductive Reached : Focus Entity → Prop
  | set (table : String) (db : Database) :
    Reached ⟨.many (.ofTable table), db⟩
  | record (origin : Record.Origin) (table : String) (db : Database) :
    Reached ⟨.one (origin.make table), db⟩
  | use {s : Focus Entity} (use : Use) :
    Reached s →
    Reached (use.run.outcome s).2
  | step {s s' : Focus Entity} {step : Step} {inner : Entity} :
    Reached s →
    Runs (find? step) s (.ok (some inner)) s' →
    Reached ⟨inner, s'.database⟩

/-- Every set in reach of an object knows the number of its rows if it keeps a page. -/
inductive Counted : Entity → Prop
  | one {r : Record} :
    (∀ field entity, Entries.get? field r.relations = some entity → Counted entity) →
    Counted (.one r)
  | many {set : RecordSet} :
    (set.page.isSome → set.total.isSome) →
    (∀ page r, set.page = some page → .record r ∈ page.slots → Counted (.one r)) →
    Counted (.many set)

end Entity

open Entity

namespace Record
variable {r : Record}

/-- A record is counted if another one that keeps the same is. -/
lemma counted_of_relations_eq {r' : Record} (h : Counted (.one r))
    (heq : r'.relations = r.relations) : Counted (.one r') := by
  cases h with
  | one hkept => exact .one (heq.symm ▸ hkept)

/-- A record that keeps nothing is counted. -/
lemma counted_of_no_relations (h : r.relations = []) : Counted (.one r) := by
  refine .one ?_
  rw [h]
  nofun

/-- Related objects begin without a page. -/
lemma counted_of_resolve? {field : String} {entity : Entity} (h : r.resolve? field = some entity) :
    Counted entity := by
  cases resolve?_eq_some_iff.1 h with
  | collection _ _ => exact .many nofun nofun
  | foreign _ _ _ => exact counted_of_no_relations rfl

/-- A counted record may keep a counted object. -/
lemma counted_keep (h : Counted (.one r)) {field : String} {entity : Entity}
    (hentity : Counted entity) : Counted (.one (r.keep field entity)) := by
  cases h with
  | one hkept =>
    refine .one ?_
    intro field' entity' h
    simp only [Record.keep, Entries.get?_put] at h
    split at h
    · cases h
      exact hentity
    · exact hkept field' entity' h

/-- A value that is staged leaves a record counted. -/
lemma counted_stage (h : Counted (.one r)) (field : String) (v : Value) :
    Counted (.one (r.stage field v)) := by
  cases h with
  | one hkept => exact .one fun field' entity' h => hkept field' entity' (kept_stage h).1

/-- To look at a field of a counted record gives a counted object, and leaves the record counted. -/
lemma counted_look (h : Counted (.one r)) (field : String) :
    Counted (.one (r.look field).2) ∧
      ∀ entity, (r.look field).1 = .related entity → Counted entity := by
  have hvalue (v : Value) : Counted (.one r) ∧
      ∀ entity, Field.value v = .related entity → Counted entity := ⟨h, nofun⟩
  unfold look read
  split
  · cases r.current? field with
    | some v => exact hvalue v
    | none =>
      cases hkept : Entries.get? field r.relations with
      | some entity =>
        cases h with
        | one hrelations =>
          refine ⟨.one hrelations, ?_⟩
          rintro _ ⟨⟩
          exact hrelations field entity hkept
      | none =>
        cases hresolve : r.resolve? field with
        | none => exact hvalue .null
        | some entity =>
          have hentity := counted_of_resolve? hresolve
          refine ⟨counted_keep h hentity, ?_⟩
          rintro _ ⟨⟩
          exact hentity
  · exact hvalue .null

/-- To write to a field leaves a record counted. -/
lemma counted_write (h : Counted (.one r)) (field : String) (v : Value) :
    Counted (.one (r.write field v).2) := by
  have hlook := (counted_look h field).1
  unfold write
  split
  · split
    · exact counted_stage hlook field v
    · exact hlook
  · exact h

/-- To clear a field leaves a record counted. -/
lemma counted_clear (h : Counted (.one r)) (field : String) : Counted (.one (r.clear field)) := by
  unfold clear
  split
  · exact counted_stage h field _
  · exact h

/-- Every operation leaves a fetched record counted. -/
lemma counted_effect (h : Counted (.one r)) (op : Operation) : Counted (.one (op.effect r)) := by
  cases op with
  | get field => exact (counted_look h field).1
  | value field => exact (counted_look h field).1
  | one field => exact (counted_look h field).1
  | many field => exact (counted_look h field).1
  | typed field => exact (counted_look h field).1
  | set field v => exact counted_write h field v
  | unset field => exact counted_clear h field
  | _ => exact h

/-- To fetch the row leaves what a record keeps. -/
lemma relations_of_hydrating {s s' : Focus Record} {o : Except Error Unit}
    (h : Hydrating s o s') : s'.self.relations = s.self.relations := by
  cases h with
  | known _ => rfl
  | @received rows db _ _ => cases rows <;> rfl
  | failed _ _ => rfl

/-- To fetch the row leaves a record counted. -/
lemma counted_of_hydrate {s s' : Focus Record} {o : Except Error Unit} (h : Counted (.one s.self))
    (hhydrate : Runs hydrate s o s') : Counted (.one s'.self) :=
  counted_of_relations_eq h (relations_of_hydrating (hydrating_of_runs hhydrate))

/-- Every operation leaves a record counted. -/
lemma keeps_counted_operation (op : Operation) :
    Keeps (fun s : Focus Record => Counted (.one s.self)) op.run := by
  intro s o s' hs h
  cases doing_of_runs h with
  | described _ _ => exact hs
  | @acted db _ _ _ hacting =>
    cases hacting with
    | failed hhydrate => exact counted_of_hydrate (s := ⟨s.self, db⟩) hs hhydrate
    | done hhydrate => exact counted_effect (counted_of_hydrate (s := ⟨s.self, db⟩) hs hhydrate) op

/-- What is found by looking at a field is in reach of the record. -/
lemma counted_of_looking {α : Type} {field : String} {pick : Field → Option α} {wrap : α → Entity}
    (hpick : ∀ found a, pick found = some a → found = .related (wrap a)) {s s' : Focus Record}
    {o : Except Error (Option α)} (h : Counted (.one s.self))
    (hacting : Acting (fun r => (pick (r.look field).1, (r.look field).2)) s o s') :
    Counted (.one s'.self) ∧ ∀ a, o = .ok (some a) → Counted (wrap a) := by
  cases hacting with
  | failed hhydrate => exact ⟨counted_of_hydrate h hhydrate, nofun⟩
  | done hhydrate =>
    obtain ⟨hrecord, hfound⟩ := counted_look (counted_of_hydrate h hhydrate) field
    exact ⟨hrecord, fun a ha => hfound _ (hpick _ a (Except.ok.inj ha))⟩

/-- The related record that a counted record gives is counted. -/
lemma counted_of_one? {field : String} {s s' : Focus Record} {o : Except Error (Option Record)}
    (h : Counted (.one s.self)) (hrun : Runs (one? field) s o s') :
    Counted (.one s'.self) ∧ ∀ record, o = .ok (some record) → Counted (.one record) := by
  apply counted_of_looking (fun found a hpick => ?_) h ((fetches_one? field).runs s o s' hrun)
  unfold Field.record? at hpick
  split at hpick
  · cases hpick
    rfl
  · cases hpick

/-- The related set that a counted record gives is counted. -/
lemma counted_of_many? {field : String} {s s' : Focus Record} {o : Except Error (Option RecordSet)}
    (h : Counted (.one s.self)) (hrun : Runs (many? field) s o s') :
    Counted (.one s'.self) ∧ ∀ set, o = .ok (some set) → Counted (.many set) := by
  apply counted_of_looking (fun found a hpick => ?_) h ((fetches_many? field).runs s o s' hrun)
  unfold Field.set? at hpick
  split at hpick
  · cases hpick
    rfl
  · cases hpick

end Record

namespace RecordSetOf
variable {s s' : Focus RecordSet}

/-- The set that an operation works on, and all in reach of it, are counted if they keep a page. -/
def AllCounted (s : Focus RecordSet) : Prop := Counted (.many s.self)

/-- A set without a page is counted. -/
lemma counted_of_no_page {set : RecordSet} (h : set.page = none) : Counted (.many set) := by
  refine .many ?_ ?_
  · rw [h]
    nofun
  · rw [h]
    nofun

/-- To count leaves all in reach of a set counted. -/
lemma allCounted_of_counting {o : Except Error Nat} (h : AllCounted s)
    (hcounting : Counting s o s') : AllCounted s' := by
  cases hcounting with
  | known _ => exact h
  | counted _ _ => exact counted_of_no_page rfl
  | failed _ _ => exact h

/-- To turn a page leaves all in reach of a set counted, if its rows are. -/
lemma allCounted_of_turning {offset : Nat} {o : Except Error Unit} (h : AllCounted s)
    (htotal : s.self.total.isSome) (hturning : Turning s offset o s') : AllCounted s' := by
  cases hturning with
  | kept _ => exact h
  | turned _ hloading =>
    cases hloading with
    | failed _ => exact h
    | loaded _ =>
      refine .many (fun _ => htotal) ?_
      rintro _ r ⟨⟩ hmem
      -- no record was made of a place yet
      simp at hmem

/-- A place on a page that is kept holds a row, or a record in reach of the set. -/
lemma counted_of_slot? {set : RecordSet} (h : Counted (.many set)) {offset : Nat}
    {slot : Slot Record} (hslot : set.slot? offset = some slot) (table : String) :
    Counted (.one (slot.toRecord table)) := by
  cases h with
  | many _ hrecords =>
    obtain ⟨page, hpage, hslot⟩ := Option.bind_eq_some_iff.1 hslot
    cases slot with
    | raw row => exact Record.counted_of_no_relations rfl
    | record r => exact hrecords page r hpage (List.mem_of_getElem? hslot)

/-- A counted record may be put into a counted set. -/
lemma counted_putRecord {set : RecordSet} (h : Counted (.many set)) {record : Record}
    (hrecord : Counted (.one record)) (offset : Nat) :
    Counted (.many (set.putRecord offset record)) := by
  cases h with
  | many htotal hrecords =>
    refine .many ?_ ?_
    · intro hpage
      apply htotal
      simpa [putRecord] using hpage
    · intro page' r hp hmem
      obtain ⟨page, hpage, rfl⟩ := Option.map_eq_some_iff.1 hp
      cases List.mem_or_eq_of_mem_set hmem with
      | inl hmem => exact hrecords page r hpage hmem
      | inr heq =>
        cases heq
        exact hrecord

/-- A record that is looked up is in reach of the set. -/
lemma allCounted_of_looking {offset : Nat} {o : Except Error (Option Record)} (h : AllCounted s)
    (hlooking : Looking s offset o s') :
    AllCounted s' ∧ ∀ record, o = .ok (some record) → Counted (.one record) := by
  have hturned {total : Nat} {s₁ s₂ : Focus RecordSet} {o : Except Error Unit}
      (hcounting : Counting s (.ok total) s₁) (hturning : Turning s₁ offset o s₂) : AllCounted s₂ :=
    allCounted_of_turning (allCounted_of_counting h hcounting)
      (Option.isSome_of_eq_some hcounting.total_eq) hturning
  cases hlooking with
  | uncounted hcounting => exact ⟨allCounted_of_counting h hcounting, nofun⟩
  | beyond hcounting _ => exact ⟨allCounted_of_counting h hcounting, nofun⟩
  | unloaded hcounting _ hturning => exact ⟨hturned hcounting hturning, nofun⟩
  | missing hcounting _ hturning _ => exact ⟨hturned hcounting hturning, nofun⟩
  | @found _ _ s₂ _ hcounting _ hturning hslot =>
    have hall := hturned hcounting hturning
    have hrecord := counted_of_slot? hall hslot s₂.self.table
    refine ⟨counted_putRecord hall hrecord offset, ?_⟩
    rintro _ ⟨⟩
    exact hrecord

/-- A filter that is removed leaves a set counted. -/
lemma counted_removeFilter {set : RecordSet} (h : Counted (.many set)) (key : String) :
    Counted (.many (set.removeFilter key).2) := by
  unfold removeFilter
  split
  · exact counted_of_no_page rfl
  -- nothing is taken away, and nothing is given up
  · exact h

/-- To take rows leaves all in reach of a set counted. -/
lemma keeps_allCounted_takeRows (limit : Option Nat) : Keeps AllCounted (takeRows limit) := by
  refine keeps_takeRows ?_ ?_ ?_ limit
  · exact fun _ _ _ hs h => allCounted_of_counting hs (counting_of_runs h)
  · exact fun _ _ _ _ hs h => (allCounted_of_looking hs (looking_of_runs h)).1
  · intro item s r s' hs h
    obtain ⟨db, -, rfl⟩ := Focus.runs_onDatabase.1 h
    exact hs

/-- Every operation on a set leaves all in reach of it counted. -/
lemma keeps_allCounted_operation (op : RecordSetOf.Operation) : Keeps AllCounted op.run := by
  have hchange {change : RecordSet → RecordSet} (hpage : ∀ set, (change set).page = none) :
      Keeps AllCounted (Focus.modifySelf change) :=
    keeps_modify fun s _ => counted_of_no_page (hpage s.self)
  unfold Operation.run
  cases op with
  | addFilter key value => exact hchange fun _ => rfl
  | withFilters filters => exact hchange fun _ => rfl
  | sortBy key direction => exact hchange fun _ => rfl
  | withPageSize size => exact hchange fun _ => rfl
  | withDedup dedup => exact hchange fun _ => rfl
  | invalidate => exact hchange fun _ => rfl
  | removeFilter key => exact keeps_modify fun _ hs => counted_removeFilter hs key
  | count =>
    exact keeps_ignored fun _ _ _ hs h => allCounted_of_counting hs (counting_of_runs h)
  | «at» offset =>
    exact keeps_ignored fun _ _ _ hs h => (allCounted_of_looking hs (looking_of_runs h)).1
  | next walk =>
    exact keeps_ignored
      (keeps_next? (fun _ _ _ _ hs h => (allCounted_of_looking hs (looking_of_runs h)).1) walk)
  | rows limit => exact keeps_ignored (keeps_allCounted_takeRows limit)
  | text indent =>
    refine keeps_ignored (keeps_bind (keeps_allCounted_takeRows none) fun rows => ?_)
    exact keeps_bind (keeps_bind keeps_get fun _ => keeps_pure _) fun set => keeps_pure _

end RecordSetOf

namespace Entity

/-- All in reach of the object that an operation works on are counted. -/
def AllCounted (s : Focus Entity) : Prop := Counted s.self

/-- Every operation on an object leaves all in reach of it counted. -/
lemma keeps_allCounted_operation (op : Entity.Operation) : Keeps AllCounted op.run := by
  intro s o s' hs h
  have hpure (h : Runs (pure ()) s o s') : AllCounted s' := keeps_pure () s o s' hs h
  rw [Operation.run, Focus.runs_getSelf_bind] at h
  cases hself : s.self with
  | one record =>
    rw [AllCounted, hself] at hs
    rw [hself] at h
    cases op with
    | set op => exact hpure h
    | record op =>
      obtain ⟨t, ht, rfl⟩ := runs_onRecord.1 h
      exact Record.keeps_counted_operation op _ o t hs ht
  | many set =>
    rw [AllCounted, hself] at hs
    rw [hself] at h
    cases op with
    | record op => exact hpure h
    | set op =>
      obtain ⟨t, ht, rfl⟩ := runs_onSet.1 h
      exact RecordSetOf.keeps_allCounted_operation op ⟨set, s.database⟩ o t hs ht

/-- What a step leads to is in reach of the object. -/
lemma allCounted_of_find? {s s' : Focus Entity} {step : Step} {o : Except Error (Option Entity)}
    (hs : AllCounted s) (h : Runs (find? step) s o s') :
    AllCounted s' ∧ ∀ inner, o = .ok (some inner) → Counted inner := by
  have hnowhere (h : Runs (pure none) s o s') :
      AllCounted s' ∧ ∀ inner, o = .ok (some inner) → Counted inner := by
    obtain ⟨rfl, rfl⟩ := runs_pure.1 h
    exact ⟨hs, nofun⟩
  have hmap {α : Type} {wrap : α → Entity} {op : Access (Focus Entity) (Option α)}
      (h : Runs (op >>= fun found => pure (found.map wrap)) s o s')
      (hop : ∀ r, Runs op s r s' → AllCounted s' ∧ ∀ a, r = .ok (some a) → Counted (wrap a)) :
      AllCounted s' ∧ ∀ inner, o = .ok (some inner) → Counted inner := by
    obtain ⟨e, rfl, hrun⟩ | ⟨found, s₁, hrun, hrest⟩ := runs_bind.1 h
    · exact ⟨(hop _ hrun).1, nofun⟩
    · obtain ⟨rfl, rfl⟩ := runs_pure.1 hrest
      refine ⟨(hop _ hrun).1, ?_⟩
      intro inner hinner
      obtain ⟨a, rfl, rfl⟩ := Option.map_eq_some_iff.1 (Except.ok.inj hinner)
      exact (hop _ hrun).2 a rfl
  rw [find?, Focus.runs_getSelf_bind] at h
  cases hself : s.self with
  | one record =>
    rw [AllCounted, hself] at hs
    rw [hself] at h
    cases step with
    | one field =>
      refine hmap h fun r hrun => ?_
      obtain ⟨t, ht, rfl⟩ := runs_onRecord.1 hrun
      exact Record.counted_of_one? hs ht
    | many field =>
      refine hmap h fun r hrun => ?_
      obtain ⟨t, ht, rfl⟩ := runs_onRecord.1 hrun
      exact Record.counted_of_many? hs ht
    | «at» offset => exact hnowhere h
  | many set =>
    rw [AllCounted, hself] at hs
    rw [hself] at h
    cases step with
    | one field => exact hnowhere h
    | many field => exact hnowhere h
    | «at» offset =>
      refine hmap h fun r hrun => ?_
      obtain ⟨t, ht, rfl⟩ := runs_onSet.1 hrun
      exact RecordSetOf.allCounted_of_looking (s := ⟨set, s.database⟩) hs
        (RecordSetOf.looking_of_runs ht)

/-- A counted object may be put back into the one that it was found in. -/
lemma counted_put {inner outer : Entity} (hinner : Counted inner) (houter : Counted outer)
    (step : Step) : Counted (put step inner outer) := by
  unfold put
  split
  · exact Record.counted_keep houter hinner
  · exact Record.counted_keep houter hinner
  · exact RecordSetOf.counted_putRecord houter hinner _
  · exact houter

/-- What is done at the end of a path leaves all on the way counted. -/
lemma keeps_allCounted_follow (op : Entity.Operation) (path : List Step) :
    Keeps AllCounted (follow op.run path) := by
  induction path with
  | nil => exact keeps_bind (keeps_allCounted_operation op) fun _ => keeps_pure _
  | cons step path ih =>
    intro s o s' hs h
    obtain ⟨e, -, hfind⟩ | ⟨found, s₁, hfind, hrest⟩ := runs_bind.1 h
    · exact (allCounted_of_find? hs hfind).1
    obtain ⟨hs₁, hfound⟩ := allCounted_of_find? hs hfind
    cases found with
    | none =>
      obtain ⟨-, rfl⟩ := runs_pure.1 hrest
      exact hs₁
    | some inner =>
      obtain ⟨t, ht, rfl⟩ := Focus.runs_onPart.1 hrest
      exact counted_put (ih ⟨inner, s₁.database⟩ o t (hfound inner rfl) ht) hs₁ step

/-- Every use of an object leaves all in reach of it counted. -/
lemma keeps_allCounted_use (use : Use) : Keeps AllCounted use.run := by
  have hdatabase (op : Access Database Unit) : Keeps AllCounted (Focus.onDatabase op) := by
    intro s o s' hs h
    obtain ⟨db, -, rfl⟩ := Focus.runs_onDatabase.1 h
    exact hs
  cases use with
  | here path op => exact keeps_ignored (keeps_allCounted_follow op path)
  | elsewhere other path op => exact hdatabase _
  | database op => exact hdatabase _

/-- In all that a caller comes by, a set that keeps a page knows the number of its rows. -/
theorem counted_of_reached {s : Focus Entity} (h : Reached s) : Counted s.self := by
  induction h with
  | set table db => exact RecordSetOf.counted_of_no_page rfl
  | record origin table db =>
    rw [Record.Origin.make_eq]
    exact Record.counted_of_no_relations rfl
  | use use _ ih => exact keeps_allCounted_use use _ _ _ ih rfl
  | step _ hfind ih => exact (allCounted_of_find? ih hfind).2 _ rfl

end Entity
end RecordAccess
