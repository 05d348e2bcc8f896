import RecordAccess.Proofs.Record.Overlay
import RecordAccess.Proofs.Record.Relations

/-!
# Records that are found by foreign keys

A field `x` that is no column, no collection and not kept yet is the record that the column `x_id` names,
if it holds a positive integer (`Names`), and is null otherwise, with nothing kept (`FollowsKey`). This
is not so for every value of the column: an integer that is not positive is followed too, although no
row has it for its identity; and a value that is staged for `x_id` while the row has no such column is not
followed. `followsKey_iff` says that it is so in all other cases.
-/

namespace RecordAccess
open Access Database

namespace Record
variable {r : Record} {s s₁ : Focus Record} {field : String}

/-- The identity of a row, which the column of a field holds. -/
def Names (r : Record) (field : String) (n : Int64) : Prop :=
  ∃ key, r.current? (field ++ foreignKeyEnding) = some key ∧ key.asInt? = some n ∧ 0 < n.toInt

/-- A record of a table of which no more than its identity is known, and which is fetched when needed. -/
structure Unfetched (table : String) (n : Int64) (record : Record) : Prop where
  table_eq : record.table = lowercase table
  persisted_eq : record.persisted = OrderedMap.empty.insert idName (.int n)
  overlay_eq : record.overlay = .empty
  relations_eq : record.relations = []
  id_eq : record.id = n
  isLazy_eq : record.isLazy = true

/-- A field is the record that its column names, and else null. `s₁` is the state in which the row is
fetched, and stays where nothing is kept. -/
structure FollowsKey (s s₁ : Focus Record) (field : String) : Prop where
  one : ∀ record, (∃ s', Runs (one? field) s (.ok (some record)) s') →
    ∃ n, Names s₁.self field n ∧ Unfetched field n record
  named : ∀ n, Names s₁.self field n →
    ∃ record s', Runs (one? field) s (.ok (some record)) s' ∧ Unfetched field n record
  null : (∀ n, ¬ Names s₁.self field n) →
    Runs (Record.get field) s (.ok (.value .null)) s₁ ∧ Runs (one? field) s (.ok none) s₁

/-- A record made of an identity is unfetched. -/
lemma unfetched_ofId (table : String) (n : Int64) : Unfetched table n (ofId table n) :=
  ⟨rfl, rfl, rfl, rfl, rfl, rfl⟩

/-- The record that a field is found to be, whether it may be or not. -/
def keyed? (r : Record) (field : String) : Option Record :=
  if r.persisted.contains (field ++ foreignKeyEnding) then r.foreign? field else none

/-- A field is a record if its column is in the row and holds an integer, which is the record's
identity. -/
lemma keyed?_eq_some_iff {record : Record} :
    r.keyed? field = some record ↔
      r.persisted.contains (field ++ foreignKeyEnding) = true ∧
        ∃ key n, r.current? (field ++ foreignKeyEnding) = some key ∧ key.asInt? = some n ∧
          record = ofId field n := by
  rw [keyed?, ← foreign?_eq_some_iff]
  split
  next hcolumn => simp [hcolumn]
  next hcolumn => simp [hcolumn]

/-- A field that is no column, no collection and not kept depends on its column alone. -/
lemma look_of_fresh (hvalue : r.current? field = none) (hname : without? collectionEnding field = none)
    (hkept : Entries.get? field r.relations = none) :
    r.look field =
      match r.keyed? field with
      | some record => (.related (.one record), r.keep field (.one record))
      | none => (.value .null, r) := by
  have hcolumn : r.persisted.contains field = false := by
    unfold current? at hvalue
    cases hoverlay : r.overlay.get? field with
    | some v => simp [hoverlay] at hvalue
    | none => simpa [OrderedMap.contains, hoverlay] using hvalue
  unfold look keyed?
  cases hkey : r.persisted.contains (field ++ foreignKeyEnding) with
  | false => simp [hasField, hcolumn, hkey, hname]
  | true =>
    have hfield : r.hasField field = true := by simp [hasField, hkey]
    have hresolve : r.resolve? field = (r.foreign? field).map .one := by
      simp [resolve?, collection?, hname]
    simp only [hfield, if_true, read, hvalue, hkept, hresolve]
    cases r.foreign? field <;> rfl

section Fresh
variable (hhydrate : Runs hydrate s (.ok ()) s₁) (hvalue : s₁.self.current? field = none)
  (hname : without? collectionEnding field = none)
  (hkept : Entries.get? field s₁.self.relations = none)
include hhydrate hvalue hname hkept

/-- A field is found to be a record if the fetched row has it as one. -/
lemma runs_one?_iff (record : Record) :
    (∃ s', Runs (one? field) s (.ok (some record)) s') ↔ s₁.self.keyed? field = some record := by
  have hrun := (fetches_one? field).runs_of_hydrate hhydrate
  rw [look_of_fresh hvalue hname hkept] at hrun
  constructor
  · rintro ⟨s', hone⟩
    have hsame := (hone.unique hrun).1
    cases hkeyed : s₁.self.keyed? field with
    | none => simp [hkeyed, Field.record?] at hsame
    | some other => simpa [hkeyed, Field.record?] using hsame
  · intro hkeyed
    rw [hkeyed] at hrun
    exact ⟨_, hrun⟩

/-- Where no record is found, nothing is kept. -/
lemma runs_of_keyed?_eq_none (hkeyed : s₁.self.keyed? field = none) :
    Runs (Record.get field) s (.ok (.value .null)) s₁ ∧ Runs (one? field) s (.ok none) s₁ := by
  have hget := (fetches_get field).runs_of_hydrate hhydrate
  have hone := (fetches_one? field).runs_of_hydrate hhydrate
  rw [look_of_fresh hvalue hname hkept, hkeyed] at hget hone
  exact ⟨hget, hone⟩

end Fresh

/-- A field follows its column if and only if the positive integers are the only ones that are followed,
and all of them are: a stored column holds no other integer, and no other column one of them. -/
theorem followsKey_iff (hhydrate : Runs hydrate s (.ok ()) s₁)
    (hvalue : s₁.self.current? field = none) (hname : without? collectionEnding field = none)
    (hkept : Entries.get? field s₁.self.relations = none) :
    FollowsKey s s₁ field ↔ ∀ key n, s₁.self.current? (field ++ foreignKeyEnding) = some key →
      key.asInt? = some n →
        (0 < n.toInt ↔ s₁.self.persisted.contains (field ++ foreignKeyEnding) = true) := by
  have hone := runs_one?_iff hhydrate hvalue hname hkept
  constructor
  · intro h key n hkey hn
    constructor
    · intro hpositive
      obtain ⟨record, s', hrun, -⟩ := h.named n ⟨key, hkey, hn, hpositive⟩
      exact (keyed?_eq_some_iff.1 ((hone record).1 ⟨s', hrun⟩)).1
    · intro hcolumn
      have hkeyed := keyed?_eq_some_iff.2 ⟨hcolumn, key, n, hkey, hn, rfl⟩
      obtain ⟨m, ⟨key', hkey', hm, hpositive⟩, -⟩ := h.one _ ((hone _).2 hkeyed)
      obtain rfl : key = key' := Option.some.inj (hkey.symm.trans hkey')
      obtain rfl : n = m := Option.some.inj (hn.symm.trans hm)
      exact hpositive
  · intro hall
    refine ⟨?_, ?_, ?_⟩
    · intro record hrun
      obtain ⟨hcolumn, key, n, hkey, hn, rfl⟩ := keyed?_eq_some_iff.1 ((hone record).1 hrun)
      exact ⟨n, ⟨key, hkey, hn, (hall key n hkey hn).2 hcolumn⟩, unfetched_ofId field n⟩
    · rintro n ⟨key, hkey, hn, hpositive⟩
      have hcolumn := (hall key n hkey hn).1 hpositive
      obtain ⟨s', hrun⟩ := (hone _).2 (keyed?_eq_some_iff.2 ⟨hcolumn, key, n, hkey, hn, rfl⟩)
      exact ⟨_, s', hrun, unfetched_ofId field n⟩
    · intro hnames
      apply runs_of_keyed?_eq_none hhydrate hvalue hname hkept
      rw [Option.eq_none_iff_forall_ne_some]
      intro record hkeyed
      obtain ⟨hcolumn, key, n, hkey, hn, -⟩ := keyed?_eq_some_iff.1 hkeyed
      exact hnames n ⟨key, hkey, hn, (hall key n hkey hn).2 hcolumn⟩

/-- A widget with a value for the identity of its maker. -/
def widgetOf (maker : Value) : Focus Record :=
  ⟨.ofRow "widget" (.ofList [("id", .int 7), ("maker_id", maker)]), unreachable⟩

/-- The row of a widget need not be fetched. -/
lemma runs_hydrate_widgetOf (maker : Value) :
    Runs hydrate (widgetOf maker) (.ok ()) (widgetOf maker) :=
  runs_hydrate_of_isLazy rfl

/-- The maker is followed by an identity that is written in digits. -/
theorem followsKey_maker :
    Runs hydrate (widgetOf (.text "3")) (.ok ()) (widgetOf (.text "3")) ∧
      (widgetOf (.text "3")).self.current? "maker" = none ∧
      without? collectionEnding "maker" = none ∧
      Entries.get? "maker" (widgetOf (.text "3")).self.relations = none ∧
      Names (widgetOf (.text "3")).self "maker" 3 ∧
      FollowsKey (widgetOf (.text "3")) (widgetOf (.text "3")) "maker" := by
  have hkey : (widgetOf (.text "3")).self.current? ("maker" ++ foreignKeyEnding) =
      some (.text "3") := rfl
  have hthree : (Value.text "3").asInt? = some 3 := by decide
  refine ⟨runs_hydrate_widgetOf _, rfl, rfl, rfl, ⟨_, hkey, hthree, by decide⟩, ?_⟩
  refine (followsKey_iff (runs_hydrate_widgetOf _) rfl rfl rfl).2 ?_
  intro key n hkey' hn
  obtain rfl : Value.text "3" = key := Option.some.inj (hkey.symm.trans hkey')
  obtain rfl : 3 = n := Option.some.inj (hthree.symm.trans hn)
  decide

/-- An identity that no row has is followed too. -/
theorem not_followsKey_zero :
    ¬ ∀ (s s₁ : Focus Record) (field : String), Runs hydrate s (.ok ()) s₁ →
      s₁.self.current? field = none → without? collectionEnding field = none →
      Entries.get? field s₁.self.relations = none → FollowsKey s s₁ field := by
  intro h
  have hfollows := h _ _ "maker" (runs_hydrate_widgetOf (.int 0)) rfl rfl rfl
  have hfound : ∃ s', Runs (one? "maker") (widgetOf (.int 0)) (.ok (some (ofId "maker" 0))) s' :=
    (runs_one?_iff (runs_hydrate_widgetOf (.int 0)) rfl rfl rfl _).2 rfl
  obtain ⟨n, ⟨key, hkey, hn, hpositive⟩, -⟩ := hfollows.one _ hfound
  obtain rfl : Value.int 0 = key := Option.some.inj hkey
  obtain rfl : 0 = n := Option.some.inj hn
  exact absurd hpositive (by decide)

end Record
end RecordAccess
