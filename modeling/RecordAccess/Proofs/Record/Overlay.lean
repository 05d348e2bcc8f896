import Mathlib.Tactic.Common
import RecordAccess.Proofs.Record.Hydration

/-!
# Reading what was written

A value that is set is read back, and everything else is read as before. What a fetched record shows
depends on its stored row and its staged changes alone (`shown`), and an operation leaves the stored
row and all changes but that of the field it writes to (`Beside`, with `beside_write` and
`beside_clear`); an operation that writes to no field leaves them all (`beside_effect`).
`readsBack_of_hydrate` says so of the operations themselves, once the row is or can be fetched.
-/

namespace RecordAccess
open Access Database

namespace Record
variable {r r' : Record} {field : String}

/-- The value that a field of a fetched record is shown with. -/
def shown (r : Record) (field : String) : Value :=
  if r.hasField field then (r.current? field).getD .null else .null

/-- Related objects are null, so that the value of a field is that of its column. -/
lemma toValue_look (r : Record) (field : String) : (r.look field).1.toValue = r.shown field := by
  unfold look shown
  split
  · unfold read
    cases r.current? field with
    | some v => rfl
    | none =>
      cases Entries.get? field r.relations with
      | some entity => rfl
      | none => cases r.resolve? field <;> rfl
  · rfl

/-- A record has the fields that are columns of its row. -/
lemma hasField_of_contains (h : r.persisted.contains field = true) : r.hasField field = true := by
  simp [hasField, h]

/-- The fields of a record do not depend on its changes, nor on what it keeps. -/
lemma hasField_of_stored (h : r'.stored = r.stored) (field : String) :
    r'.hasField field = r.hasField field := by
  rw [hasField, hasField, persisted_of_stored h]

/-- The row that is shown has the columns of the stored one. -/
lemma keys_effectiveRow (r : Record) : r.effectiveRow.keys = r.persisted.keys :=
  OrderedMap.keys_mapEntries _ _

/-- The row that is shown has under each column the value that the field is shown with. -/
lemma get?_effectiveRow {name : String} (h : name ∈ r.persisted.keys) :
    r.effectiveRow.get? name = some (r.shown name) := by
  have hcontains := (r.persisted.mem_keys_iff name).1 h
  obtain ⟨value, hvalue⟩ := Option.isSome_iff_exists.1 hcontains
  rw [shown, if_pos (hasField_of_contains hcontains), effectiveRow, OrderedMap.get?_mapEntries,
    hvalue, Option.map_some, current?, hvalue]
  cases r.overlay.get? name <;> rfl

/-- What becomes of a value that is to be staged: the record lacks the field, or the field has the
value, or it is staged. -/
inductive Writing (r : Record) (field : String) (v : Value) : Bool × Record → Prop where
  | lacking :
    r.hasField field = false →
    Writing r field v (false, r)
  | same {current} :
    r.hasField field = true →
    (r.look field).1 = .value current →
    current.same v = true →
    Writing r field v (false, (r.look field).2)
  | staged :
    r.hasField field = true →
    (∀ current, (r.look field).1 = .value current → current.same v = false) →
    Writing r field v (true, (r.look field).2.stage field v)

/-- To stage a value ends in one of the ways of `Writing`. -/
lemma writing (r : Record) (field : String) (v : Value) :
    Writing r field v (r.write field v) := by
  unfold write
  cases hhas : r.hasField field with
  | false => exact .lacking hhas
  | true =>
    cases hlook : (r.look field).1 with
    | value current =>
      cases hsame : current.same v with
      | true => simpa [differs, hsame] using .same hhas hlook hsame
      | false =>
        have hstaged : Writing r field v (true, (r.look field).2.stage field v) := by
          refine .staged hhas ?_
          intro current' hcurrent
          rw [hlook] at hcurrent
          cases hcurrent
          exact hsame
        simpa [differs, hsame] using hstaged
    | related entity =>
      have hstaged : Writing r field v (true, (r.look field).2.stage field v) := by
        refine .staged hhas ?_
        intro current hcurrent
        rw [hlook] at hcurrent
        cases hcurrent
      simpa [differs] using hstaged

/-- A staged value is shown, if the record has the field. -/
lemma shown_stage (h : r.hasField field = true) (v : Value) :
    (r.stage field v).shown field = v := by
  have hhas : (r.stage field v).hasField field = true := h
  rw [shown, if_pos hhas, current?_stage, if_pos rfl]
  rfl

/-- The record differs from another at most in the change that is staged for a field, and in what it
keeps. -/
structure Beside (field : String) (r r' : Record) : Prop where
  stored : r'.stored = r.stored
  changes : r'.changes.erase field = r.changes.erase field

/-- Records with the same row and the same overlay do not differ beside a field. -/
lemma beside_of_overlay (hstored : r'.stored = r.stored) (hoverlay : r'.overlay = r.overlay) :
    Beside field r r' := by
  refine ⟨hstored, ?_⟩
  rw [changes, changes, hoverlay]

/-- To look at a field changes nothing beside any other. -/
lemma beside_look (r : Record) (field other : String) : Beside field r (r.look other).2 :=
  beside_of_overlay (stored_look r other) (overlay_look r other)

/-- To stage a value for a field changes nothing beside it. -/
lemma Beside.stage (h : Beside field r r') (v : Value) : Beside field r (r'.stage field v) := by
  refine ⟨h.stored, ?_⟩
  rw [← h.changes]
  exact OrderedMap.erase_insert r'.overlay field v

/-- To write to a field changes nothing beside it. -/
lemma beside_write (r : Record) (field : String) (v : Value) :
    Beside field r (r.write field v).2 := by
  cases hwrite : r.write field v with
  | mk changed r' =>
    have hwriting := writing r field v
    rw [hwrite] at hwriting
    cases hwriting with
    | lacking _ => exact beside_of_overlay rfl rfl
    | same _ _ _ => exact beside_look r field field
    | staged _ _ => exact (beside_look r field field).stage v

/-- To clear a field changes nothing beside it. -/
lemma beside_clear (r : Record) (field : String) : Beside field r (r.clear field) := by
  have hself : Beside field r r := beside_of_overlay rfl rfl
  unfold clear
  split
  · exact hself.stage _
  · exact hself

/-- Operations that change no field leave the overlay. -/
lemma overlay_effect {op : Operation} (h : op.changed? = none) (r : Record) :
    (op.effect r).overlay = r.overlay := by
  cases op with
  | get field => exact overlay_look r field
  | value field => exact overlay_look r field
  | one field => exact overlay_look r field
  | many field => exact overlay_look r field
  | typed field => exact overlay_look r field
  | set field v => cases h
  | unset field => cases h
  | _ => rfl

/-- Fetching the row leaves the staged changes. -/
lemma overlay_hydrated {s s₁ : Focus Record} (h : Runs hydrate s (.ok ()) s₁) :
    s₁.self.overlay = s.self.overlay := by
  cases hydrating_of_runs h with
  | known _ => rfl
  | @received rows db _ _ => cases rows <;> rfl

/-- Beside a field, the other fields have the values that they had. -/
lemma Beside.current?_eq (h : Beside field r r') {other : String} (hne : other ≠ field) :
    r'.current? other = r.current? other := by
  have hget := congrArg (fun m : Row => m.get? other) h.changes
  simp only [OrderedMap.get?_erase, if_neg hne] at hget
  have hoverlay : r'.overlay.get? other = r.overlay.get? other := hget
  rw [current?, current?, hoverlay, persisted_of_stored h.stored]

/-- Beside a field, the other fields are shown with the values that they were shown with. -/
lemma Beside.shown_eq (h : Beside field r r') {other : String} (hne : other ≠ field) :
    r'.shown other = r.shown other := by
  rw [shown, shown, hasField_of_stored h.stored, h.current?_eq hne]

section Gives
variable {α : Type} {s s' : Focus Record}

/-- An operation succeeds with a result. -/
def Gives (op : Access (Focus Record) α) (s : Focus Record) (a : α) : Prop :=
  ∃ s', Runs op s (.ok a) s'

/-- An operation that fetches first gives what the fetched record gives. -/
lemma Fetches.gives {op : Access (Focus Record) α} {act : Record → α × Record} (h : Fetches op act)
    (hhydrate : Runs hydrate s (.ok ()) s') : Gives op s (act s'.self).1 :=
  ⟨_, h.runs_of_hydrate hhydrate⟩

/-- A record that does not wait for its row is left as it is by fetching. -/
lemma runs_hydrate_of_isLazy (h : s.self.isLazy = false) : Runs hydrate s (.ok ()) s := by
  obtain ⟨r, s', hrun⟩ := exists_runs hydrate s
  obtain ⟨rfl, rfl⟩ := runs_hydrate h hrun
  exact hrun

/-- A fetched record gives the value that a field is shown with. -/
lemma gives_value {db : Database} (h : r.isLazy = false) (field : String) :
    Gives (value field) ⟨r, db⟩ (r.shown field) := by
  rw [← toValue_look]
  exact (fetches_value field).gives (runs_hydrate_of_isLazy h)

/-- A value that is staged for a field is the one that the field gives. -/
lemma gives_value_stage {db : Database} (h : r.isLazy = false) (hhas : r.hasField field = true)
    (v : Value) : Gives (value field) ⟨r.stage field v, db⟩ v := by
  have hlazy : (r.stage field v).isLazy = false := h
  have hvalue : Gives (value field) ⟨r.stage field v, db⟩ _ := gives_value hlazy field
  rw [shown_stage hhas] at hvalue
  exact hvalue

/-- A fetched record gives the row that is shown. -/
lemma gives_row (h : s.self.isLazy = false) : Gives row s s.self.effectiveRow :=
  (fetches_look effectiveRow).gives (runs_hydrate_of_isLazy h)

/-- All but the value of one field is shown as before: the other values, the stored row, the number of
columns and whether there is a row. No other change is lost, and the row has the columns in order, each
with its value. -/
structure Framed (field : String) (s s' : Focus Record) : Prop where
  values : ∀ other, other ≠ field → ∃ v, Gives (value other) s v ∧ Gives (value other) s' v
  persisted : s'.self.persisted = s.self.persisted
  count : Gives count s s.self.persisted.size ∧ Gives count s' s.self.persisted.size
  found : ∃ b, Gives isFound s b ∧ Gives isFound s' b
  changes : s'.self.changes.erase field = s.self.changes.erase field
  row : ∃ shown, Gives row s' shown ∧ shown.keys = s'.self.persisted.keys ∧
    ∀ name ∈ s'.self.persisted.keys, ∃ v, shown.get? name = some v ∧ Gives (value name) s' v

/-- The values, the row and the changes are shown as before. -/
structure Same (s s' : Focus Record) : Prop where
  values : ∀ name, ∃ v, Gives (value name) s v ∧ Gives (value name) s' v
  row : ∃ shown, Gives row s shown ∧ Gives row s' shown
  changes : s'.self.changes = s.self.changes

/-- What differs at most beside a field shows all else as before. -/
lemma framed_of_beside (hlazy : s.self.isLazy = false) (h : Beside field s.self s'.self) :
    Framed field s s' := by
  have hlazy' : s'.self.isLazy = false := (isLazy_of_stored h.stored).trans hlazy
  have hhydrate := runs_hydrate_of_isLazy hlazy
  have hhydrate' := runs_hydrate_of_isLazy hlazy'
  refine ⟨?values, persisted_of_stored h.stored, ?count, ?found, h.changes, ?row⟩
  case values =>
    intro other hne
    refine ⟨_, gives_value hlazy other, ?_⟩
    rw [← h.shown_eq hne]
    exact gives_value hlazy' other
  case count =>
    have hcount := fetches_look fun r => r.persisted.size
    refine ⟨hcount.gives hhydrate, ?_⟩
    rw [← persisted_of_stored h.stored]
    exact hcount.gives hhydrate'
  case found =>
    refine ⟨_, (fetches_look Record.found).gives hhydrate, ?_⟩
    rw [← found_of_stored h.stored]
    exact (fetches_look Record.found).gives hhydrate'
  case row =>
    refine ⟨_, gives_row hlazy', keys_effectiveRow _, ?_⟩
    intro name hname
    exact ⟨_, get?_effectiveRow hname, gives_value hlazy' name⟩

/-- With the same row and the same overlay a record shows everything as before. -/
lemma same_of_overlay (hlazy : s.self.isLazy = false) (hstored : s'.self.stored = s.self.stored)
    (hoverlay : s'.self.overlay = s.self.overlay) : Same s s' := by
  have hlazy' : s'.self.isLazy = false := (isLazy_of_stored hstored).trans hlazy
  have hcurrent (name : String) : s'.self.current? name = s.self.current? name := by
    rw [current?, current?, hoverlay, persisted_of_stored hstored]
  refine ⟨?values, ?row, hoverlay⟩
  case values =>
    intro name
    have hshown : s'.self.shown name = s.self.shown name := by
      rw [shown, shown, hasField_of_stored hstored, hcurrent]
    exact ⟨_, gives_value hlazy name, hshown ▸ gives_value hlazy' name⟩
  case row =>
    have hrow : s'.self.effectiveRow = s.self.effectiveRow := by
      rw [effectiveRow, effectiveRow, hoverlay, persisted_of_stored hstored]
    exact ⟨_, gives_row hlazy, hrow ▸ gives_row hlazy'⟩

/-- What writing to a field of a record does, and what reading it does not. The record is as in `s`
before, and as in `s₁` once its row is fetched. -/
structure ReadsBack (s s₁ : Focus Record) (field : String) (v : Value) : Prop where
  /-- a record is fetched once, and its staged changes are left by that -/
  hydrated : (s.self.isLazy = false → s₁ = s) ∧ s₁.self.changes = s.self.changes
  /-- a value that is staged is read back; it is not staged if it is there already -/
  set : ∃ changed s', Runs (Record.set field v) s (.ok changed) s' ∧ Framed field s₁ s' ∧
    (changed = true →
      Gives (exists? field) s true ∧
        (∃ before, Gives (get field) s before ∧
          ∀ current, before = .value current → current.same v = false) ∧
        Gives (value field) s' v ∧ s'.self.changes.get? field = some v) ∧
    (changed = false →
      s'.self.changes = s.self.changes ∧
        (Gives (exists? field) s false ∨
          ∃ current, Gives (get field) s (.value current) ∧ current.same v = true))
  /-- a field that is cleared is zero if it is the identity, else null -/
  unset : ∃ s', Runs (Record.unset field) s (.ok ()) s' ∧ Framed field s₁ s' ∧
    (Gives (exists? field) s true →
      Gives (value field) s' (if field = idName then .int 0 else .null))
  /-- other operations change nothing that is shown, whether they fail or not -/
  reads : ∀ op : Operation, op.changed? = none →
    ∀ outcome s', Runs op.run s₁ outcome s' → Same s₁ s'

/-- An operation that changes no field leaves everything shown as it was. -/
lemma same_of_runs {op : Operation} {outcome : Except Error Unit} (hlazy : s.self.isLazy = false)
    (hop : op.changed? = none) (h : Runs op.run s outcome s') : Same s s' := by
  cases doing_of_runs h with
  | described _ _ => exact same_of_overlay hlazy rfl rfl
  | @acted db _ _ _ hacting =>
    cases hacting with
    | failed hhydrate =>
      have hself := (hydrating_of_runs hhydrate).self_eq
      exact same_of_overlay hlazy (congrArg Record.stored hself) (congrArg Record.overlay hself)
    | done hhydrate =>
      have hlazy' : (Focus.mk s.self db).self.isLazy = false := hlazy
      obtain ⟨-, rfl⟩ := runs_hydrate hlazy' hhydrate
      exact same_of_overlay hlazy (stored_effect op s.self) (overlay_effect hop s.self)

/-- What is written to a record is read back, and all else is as before: whatever was done with the
record, once its row is fetched. -/
theorem readsBack_of_hydrate {s s₁ : Focus Record} (h : Runs hydrate s (.ok ()) s₁)
    (field : String) (v : Value) : ReadsBack s s₁ field v := by
  have hlazy : s₁.self.isLazy = false := (hydrating_of_runs h).isLazy_eq
  have hchanges : s₁.self.changes = s.self.changes := overlay_hydrated h
  refine ⟨⟨fun hknown => (runs_hydrate hknown h).2, hchanges⟩, ?set, ?unset,
    fun op hop outcome s' => same_of_runs hlazy hop⟩
  case set =>
    have hexists := (fetches_exists? field).gives h
    have hget := (fetches_get field).gives h
    have hwriting := writing s₁.self field v
    have hbeside := beside_write s₁.self field v
    have hrun := (fetches_set field v).runs_of_hydrate h
    cases hwrite : s₁.self.write field v with
    | mk changed r' =>
      rw [hwrite] at hwriting hbeside hrun
      refine ⟨changed, ⟨r', s₁.database⟩, hrun, framed_of_beside hlazy hbeside, ?_⟩
      cases hwriting with
      | lacking hhas =>
        rw [hhas] at hexists
        exact ⟨nofun, fun _ => ⟨hchanges, .inl hexists⟩⟩
      | same hhas hcurrent hsame =>
        rw [hcurrent] at hget
        have hlook : (s₁.self.look field).2.changes = s₁.self.changes := overlay_look s₁.self field
        exact ⟨nofun, fun _ => ⟨hlook.trans hchanges, .inr ⟨_, hget, hsame⟩⟩⟩
      | staged hhas hdiffers =>
        rw [hhas] at hexists
        refine ⟨fun _ => ⟨hexists, ⟨_, hget, hdiffers⟩, ?_, ?_⟩, nofun⟩
        · have hstored := stored_look s₁.self field
          exact gives_value_stage ((isLazy_of_stored hstored).trans hlazy)
            ((hasField_of_stored hstored field).trans hhas) v
        · simp [changes, stage]
  case unset =>
    refine ⟨_, (fetches_unset field).runs_of_hydrate h,
      framed_of_beside hlazy (beside_clear s₁.self field), ?_⟩
    rintro ⟨s', hexists⟩
    have hhas : s₁.self.hasField field = true :=
      (Except.ok.inj (((fetches_exists? field).runs_of_hydrate h).unique hexists).1).symm
    simp only [Record.clear, if_pos hhas]
    exact gives_value_stage hlazy hhas _

/-- The name of a widget is read back that was refused its row before. -/
theorem readsBack_foundWidget : refusedWidget.self.isLazy = true ∧
    Runs hydrate refusedWidget (.ok ()) foundWidget ∧
    ReadsBack refusedWidget foundWidget "name" (.text "nut") := by
  have hhydrate : Runs hydrate refusedWidget (.ok ()) foundWidget := rfl
  exact ⟨rfl, hhydrate, readsBack_of_hydrate hhydrate "name" (.text "nut")⟩

end Gives

end Record
end RecordAccess
