import RecordAccess.Proofs.Record.Overlay

/-!
# Changes that are staged

A value is to be staged for a field only where the field is something else before, a related object
being something else than any value (`OnlyReal`). Setting a field looks at what it is; clearing one does
not, so that a field may be cleared that is as a cleared one already (`StagesInVain`). `onlyReal_iff`
says that this is the only exception, and that clearing a field once more does nothing.

What is staged after a whole history was staged by one of its operations, which found the field to be
something else or cleared it in vain (`staged_of_history`).
-/

namespace RecordAccess
open Access

namespace Record
variable {s s' : Focus Record} {op : Operation} {field : String} {v : Value}
  {outcome : Except Error Unit}

/-- The value that an operation may stage, with its field. -/
def Operation.staged? : Operation → Option (String × Value)
  | set field v => some (field, v)
  | unset field => some (field, cleared field)
  | _ => none

/-- A field is found to be something else than a value. -/
def Differs (s : Focus Record) (field : String) (v : Value) : Prop :=
  ∃ found, Gives (Record.get field) s found ∧ differs found v = true

/-- The changes after an operation: those before, or with a value for a field that the record has. A
value that is set is one that the field does not have. -/
inductive Staging (op : Operation) (s : Focus Record) : Row → Prop where
  | kept :
    Staging op s s.self.changes
  | set {s₁ field v} :
    op = .set field v →
    Runs hydrate s (.ok ()) s₁ →
    differs (s₁.self.look field).1 v = true →
    Staging op s (s.self.changes.insert field v)
  | cleared {s₁ field} :
    op = .unset field →
    Runs hydrate s (.ok ()) s₁ →
    s₁.self.hasField field = true →
    Staging op s (s.self.changes.insert field (cleared field))

/-- To write to a field stages the value, or leaves the changes. -/
lemma staging_write {s₁ : Focus Record} (h : Runs hydrate s (.ok ()) s₁) (field : String) (v : Value) :
    Staging (.set field v) s (s₁.self.write field v).2.changes := by
  unfold write
  split
  · split
    next hdiffers =>
      rw [changes, stage, overlay_look, overlay_hydrated h]
      exact .set rfl h hdiffers
    next =>
      rw [changes, overlay_look, overlay_hydrated h]
      exact .kept
  · rw [changes, overlay_hydrated h]
    exact .kept

/-- To clear a field stages the cleared value, or leaves the changes. -/
lemma staging_clear {s₁ : Focus Record} (h : Runs hydrate s (.ok ()) s₁) (field : String) :
    Staging (.unset field) s (s₁.self.clear field).changes := by
  unfold clear
  split
  next hhas =>
    rw [changes, stage, overlay_hydrated h]
    exact .cleared rfl h hhas
  next =>
    rw [changes, overlay_hydrated h]
    exact .kept

/-- Every operation leaves the changes, or stages the one value that it may stage. -/
lemma staging_of_runs (h : Runs op.run s outcome s') : Staging op s s'.self.changes := by
  cases doing_of_runs h with
  | described _ _ => exact .kept
  | acted hdb _ hacting =>
    cases hacting with
    | failed hhydrate =>
      have hself := (hydrating_of_runs hhydrate).self_eq
      rw [hself]
      exact .kept
    | done hhydrate =>
      cases op with
      | set field v =>
        obtain rfl := hdb rfl
        exact staging_write hhydrate field v
      | unset field =>
        obtain rfl := hdb rfl
        exact staging_clear hhydrate field
      | _ =>
        rw [changes, overlay_effect rfl, overlay_hydrated hhydrate]
        exact .kept

/-- An operation gives what the record gives once it is fetched, and nothing else. -/
lemma gives_iff_of_hydrate {α : Type} {op : Access (Focus Record) α} {act : Record → α × Record}
    {s₁ : Focus Record} (hop : Fetches op act) (h : Runs hydrate s (.ok ()) s₁) (a : α) :
    Gives op s a ↔ a = (act s₁.self).1 := by
  constructor
  · rintro ⟨s', hrun⟩
    exact Except.ok.inj ((hop.runs_of_hydrate h).unique hrun).1
  · rintro rfl
    exact hop.gives h

/-- A field differs from a value if it does so in the fetched record. -/
lemma differs_iff_of_hydrate {s₁ : Focus Record} (h : Runs hydrate s (.ok ()) s₁) :
    Differs s field v ↔ differs (s₁.self.look field).1 v = true := by
  simp only [Differs, gives_iff_of_hydrate (fetches_get field) h, exists_eq_left]

/-- What gives a result has the row fetched. -/
lemma exists_hydrate_of_gives {α : Type} {op : Access (Focus Record) α} {act : Record → α × Record}
    {a : α} (hop : Fetches op act) (h : Gives op s a) : ∃ s₁, Runs hydrate s (.ok ()) s₁ := by
  obtain ⟨s', hrun⟩ := h
  cases hop.runs s _ s' hrun with
  | done hhydrate => exact ⟨_, hhydrate⟩

/-- An operation stages a value for a field only if the field is something else just before. So it
stages nothing, and leaves the record as clean as it is, if the field has the value. -/
structure OnlyReal (op : Operation) (s : Focus Record) : Prop where
  written : ∀ outcome s', Runs op.run s outcome s' →
    s'.self.changes = s.self.changes ∨
      ∃ field v, op.staged? = some (field, v) ∧ Differs s field v ∧
        s'.self.changes = s.self.changes.insert field v
  unchanged : (∀ field v, op.staged? = some (field, v) → ¬ Differs s field v) →
    ∀ outcome s', Runs op.run s outcome s' →
      s'.self.changes = s.self.changes ∧ s'.self.isDirty = s.self.isDirty

/-- A field is cleared that is as a cleared field already, without having been cleared before. -/
inductive StagesInVain : Operation → Focus Record → Prop where
  | unset {s field current} :
    Gives (exists? field) s true →
    Gives (Record.get field) s (.value current) →
    current.same (cleared field) = true →
    s.self.changes.get? field ≠ some (cleared field) →
    StagesInVain (.unset field) s

/-- What is staged is no value that the field has, unless it is staged in vain. -/
lemma differs_or_stagesInVain_of_runs (h : Runs op.run s outcome s') :
    s'.self.changes = s.self.changes ∨
      ∃ field v, op.staged? = some (field, v) ∧ (Differs s field v ∨ StagesInVain op s) ∧
        s'.self.changes = s.self.changes.insert field v := by
  generalize hchanges : s'.self.changes = changes
  have hstaging := staging_of_runs h
  rw [hchanges] at hstaging
  cases hstaging with
  | kept => exact .inl rfl
  | set hop hhydrate hdiffers =>
    refine .inr ⟨_, _, by rw [hop]; rfl, .inl ?_, rfl⟩
    exact (differs_iff_of_hydrate hhydrate).2 hdiffers
  | @cleared s₁ field hop hhydrate hhas =>
    -- to stage once more what is staged is no change, whatever the field is
    by_cases hstaged : s.self.changes.get? field = some (cleared field)
    · exact .inl (OrderedMap.insert_of_get? hstaged)
    refine .inr ⟨_, _, by rw [hop]; rfl, ?_, rfl⟩
    have hget := (fetches_get field).gives hhydrate
    have hexists := (fetches_exists? field).gives hhydrate
    rw [hhas] at hexists
    rw [hop, differs_iff_of_hydrate hhydrate]
    cases hlook : (s₁.self.look field).1 with
    | related entity => exact .inl rfl
    | value current =>
      rw [hlook] at hget
      cases hsame : current.same (cleared field) with
      | false => exact .inl (by simp [differs, hsame])
      | true => exact .inr (.unset hexists hget hsame hstaged)

/-- A change in vain is none, but is staged. -/
lemma StagesInVain.not_onlyReal (h : StagesInVain op s) : ¬ OnlyReal op s := by
  intro hreal
  cases h with
  | @unset _ field current hexists hget hsame hstaged =>
    obtain ⟨s₁, hhydrate⟩ := exists_hydrate_of_gives (fetches_exists? field) hexists
    have hhas := (gives_iff_of_hydrate (fetches_exists? field) hhydrate true).1 hexists
    have hlook := (gives_iff_of_hydrate (fetches_get field) hhydrate _).1 hget
    have hrun := (fetches_unset field).runs_of_hydrate hhydrate
    have hnone : ∀ field' v, (Operation.unset field).staged? = some (field', v) →
        ¬ Differs s field' v := by
      rintro _ _ ⟨⟩
      rw [differs_iff_of_hydrate hhydrate, ← hlook]
      simp [differs, hsame]
    have hsame := (hreal.unchanged hnone _ _ hrun).1
    simp only [clear, if_pos hhas.symm] at hsame
    apply hstaged
    rw [← hsame]
    simp [changes, stage]

/-- To stage a value again changes nothing. -/
lemma stage_stage (r : Record) (field : String) (v : Value) :
    (r.stage field v).stage field v = r.stage field v := by
  have hoverlay : (r.overlay.insert field v).insert field v = r.overlay.insert field v :=
    OrderedMap.insert_of_get? (by simp)
  cases hrelation : without? foreignKeyEnding field with
  | none => simp only [stage, hrelation, hoverlay]
  | some relation => simp only [stage, hrelation, hoverlay, Entries.remove_remove]

/-- To clear a field again changes nothing. -/
lemma clear_clear (r : Record) (field : String) : (r.clear field).clear field = r.clear field := by
  cases hhas : r.hasField field with
  | false => simp [clear, hhas]
  | true =>
    have hagain : (r.stage field (cleared field)).hasField field = true := hhas
    simp [clear, hhas, hagain, stage_stage]

/-- A field that was cleared can be cleared again without any change. -/
lemma runs_unset_again (h : Runs (Record.unset field) s (.ok ()) s') :
    Runs (Record.unset field) s' (.ok ()) s' := by
  cases (fetches_unset field).runs s _ s' h with
  | @done s₁ hhydrate =>
    have hlazy : (s₁.self.clear field).isLazy = false :=
      (isLazy_of_stored ((fetches_unset field).stored s₁.self)).trans
        (hydrating_of_runs hhydrate).isLazy_eq
    have hrun := (fetches_unset field).runs_of_hydrate
      (runs_hydrate_of_isLazy (s := ⟨s₁.self.clear field, s₁.database⟩) hlazy)
    rwa [clear_clear] at hrun

/-- An operation stages real changes only, unless it clears a field in vain. A field that is cleared
again stays as it is, and so does everything else. -/
theorem onlyReal_iff (op : Operation) (s : Focus Record) :
    (OnlyReal op s ↔ ¬ StagesInVain op s) ∧
      ∀ field s', op = .unset field → Runs op.run s (.ok ()) s' → Runs op.run s' (.ok ()) s' := by
  constructor
  · refine ⟨fun hreal hvain => hvain.not_onlyReal hreal, ?_⟩
    intro hvain
    have hwritten (outcome) (s' : Focus Record) (hrun : Runs op.run s outcome s') :
        s'.self.changes = s.self.changes ∨
          ∃ field v, op.staged? = some (field, v) ∧ Differs s field v ∧
            s'.self.changes = s.self.changes.insert field v := by
      apply (differs_or_stagesInVain_of_runs hrun).imp_right
      rintro ⟨field, v, hop, hdiffers, hchanges⟩
      exact ⟨field, v, hop, hdiffers.resolve_right hvain, hchanges⟩
    refine ⟨hwritten, ?_⟩
    intro hnone outcome s' hrun
    obtain hsame | ⟨field, v, hop, hdiffers, -⟩ := hwritten outcome s' hrun
    · exact ⟨hsame, congrArg (fun changes : Row => !changes.isEmpty) hsame⟩
    · exact absurd hdiffers (hnone field v hop)
  · rintro field s' rfl hrun
    exact runs_unset_again hrun

/-- A widget with a value for its name. -/
def widgetNamed (name : Value) : Focus Record where
  self := .ofRow "widget" (.ofList [("id", .int 7), ("name", name)])
  database := .ofEnvironment .empty .forgetful

/-- The row of a named widget need not be fetched. -/
lemma runs_hydrate_widgetNamed (name : Value) :
    Runs hydrate (widgetNamed name) (.ok ()) (widgetNamed name) :=
  runs_hydrate_of_isLazy rfl

/-- A name that is cleared was something else before, and is cleared once. -/
theorem onlyReal_bolt :
    OnlyReal (.unset "name") (widgetNamed (.text "bolt")) ∧
      Runs (Operation.unset "name").run (afterOperations [.unset "name"] (widgetNamed (.text "bolt")))
        (.ok ()) (afterOperations [.unset "name"] (widgetNamed (.text "bolt"))) := by
  obtain ⟨hreal, hagain⟩ := onlyReal_iff (.unset "name") (widgetNamed (.text "bolt"))
  refine ⟨hreal.2 ?_, hagain "name" _ rfl rfl⟩
  rintro ⟨-, hget, hsame, -⟩
  have hbolt := (gives_iff_of_hydrate (fetches_get "name") (runs_hydrate_widgetNamed _) _).1 hget
  cases hbolt
  cases hsame

/-- A widget without a name is clean, and no longer so once its name is cleared. -/
theorem not_onlyReal_unnamed :
    ¬ OnlyReal (.unset "name") (widgetNamed .null) ∧ (widgetNamed .null).self.isDirty = false ∧
      (afterOperations [.unset "name"] (widgetNamed .null)).self.isDirty = true := by
  have hhydrate := runs_hydrate_widgetNamed .null
  have hexists := (fetches_exists? "name").gives hhydrate
  have hget := (fetches_get "name").gives hhydrate
  exact ⟨(StagesInVain.unset hexists hget rfl nofun).not_onlyReal, rfl, rfl⟩

/-- A value was staged for a field by an operation of a history, which found the field to be something
else, or cleared it in vain. -/
def StagedIn (r₀ : Record) (events : List Event) (field : String) (v : Value) : Prop :=
  ∃ event earlier before, event :: earlier <:+ events ∧ History r₀ earlier before ∧
    event.operation.staged? = some (field, v) ∧
    (Differs ⟨before, event.before⟩ field v ∨
      StagesInVain event.operation ⟨before, event.before⟩)

/-- What was staged in a history was staged in a longer one. -/
lemma StagedIn.cons {r₀ : Record} {events : List Event} (h : StagedIn r₀ events field v)
    (event : Event) : StagedIn r₀ (event :: events) field v := by
  obtain ⟨event', earlier, before, hsuffix, hstaged⟩ := h
  exact ⟨event', earlier, before, hsuffix.trans (List.suffix_cons event events), hstaged⟩

/-- What is staged after a history was staged by an operation of it. -/
theorem staged_of_history {table : String} {origin : Origin} {events : List Event} {r : Record}
    (h : History (origin.make table) events r) (hstaged : r.changes.get? field = some v) :
    StagedIn (origin.make table) events field v := by
  induction h with
  | start => cases origin <;> cases hstaged
  | @step events r op db outcome r' db' hhistory hrun ih =>
    obtain hsame | ⟨field', v', hop, hreal, hchanges⟩ := differs_or_stagesInVain_of_runs hrun
    · rw [hsame] at hstaged
      exact (ih hstaged).cons _
    · rw [hchanges, OrderedMap.get?_insert] at hstaged
      split at hstaged
      next hfield =>
        cases hstaged
        subst hfield
        exact ⟨⟨op, db, outcome, db'⟩, events, r, List.suffix_rfl, hhistory, hop, hreal⟩
      next => exact (ih hstaged).cons _

end Record
end RecordAccess
