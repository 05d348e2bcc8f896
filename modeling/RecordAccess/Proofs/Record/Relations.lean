import Mathlib.Data.List.Infix
import Mathlib.Tactic.Common
import RecordAccess.Proofs.Record.Running

/-!
# The related objects that a record keeps

A field resolves to a related object in one of two ways (`Resolves`): a collection to the set of the
rows that point back at the identity of the record, another field to the record that the value of its
identity column names. A kept object is the one that its field resolves to for the identity that the
record has or had at some time of its history, and for the identity column as it is now: whatever
becomes of this column, the object that was found by it is given up (`kept_stage`). The identity of
the record itself is not watched in this way. So `kept_of_history` gives the exact condition under
which a kept object is the one that would be made anew.
-/

namespace RecordAccess
open Access Database

namespace Record

/-- A name without an ending is what stands before it. -/
lemma without?_eq_some_iff {ending name before : String} :
    without? ending name = some before ↔ name = before ++ ending := by
  constructor
  · intro h
    obtain ⟨cs, hcs, rfl⟩ := Option.map_eq_some_iff.1 h
    have happend := eq_append_of_beforeEnding? hcs
    rw [← String.toList_inj, happend, String.toList_append, String.toList_ofList]
  · rintro rfl
    rw [without?, String.toList_append, beforeEnding?_append, Option.map_some,
      String.ofList_toList]

/-- A name does not have an ending if it is nothing with the ending behind. -/
lemma without?_eq_none_iff {ending name : String} :
    without? ending name = none ↔ ∀ before, name ≠ before ++ ending := by
  constructor
  · intro h before heq
    rw [without?_eq_some_iff.2 heq] at h
    cases h
  · intro h
    cases hname : without? ending name with
    | none => rfl
    | some before => exact absurd (without?_eq_some_iff.1 hname) (h before)

/-- A related object of a field, for an identity of the record. -/
inductive Resolves (r : Record) (id : Int64) (field : String) : Entity → Prop where
  | collection {child} :
    field = child ++ collectionEnding →
    0 < id.toInt →
    Resolves r id field
      (.many ((RecordSetOf.ofTable child).addFilter (r.table ++ foreignKeyEnding) (.int id)))
  | foreign {key n} :
    (∀ child, field = child ++ collectionEnding → id.toInt ≤ 0) →
    r.current? (field ++ foreignKeyEnding) = some key →
    key.asInt? = some n →
    Resolves r id field (.one (ofId field n))

/-- A field leads to the record whose identity its column has as an integer. -/
lemma foreign?_eq_some_iff {r record : Record} {field : String} :
    r.foreign? field = some record ↔
      ∃ key n, r.current? (field ++ foreignKeyEnding) = some key ∧ key.asInt? = some n ∧
        record = ofId field n := by
  unfold foreign?
  cases r.current? (field ++ foreignKeyEnding) with
  | none => simp
  | some key =>
    -- null is no integer, so that it needs no case of its own
    have hnull : key.isNull = true → key.asInt? = none := by
      cases key <;> simp [Value.isNull, Value.asInt?]
    cases hkey : key.isNull with
    | true => simp [hnull hkey]
    | false =>
      simp only [hkey, Bool.false_eq_true, if_false, Option.map_eq_some_iff, Option.some.injEq]
      constructor
      · rintro ⟨n, hn, rfl⟩
        exact ⟨key, n, rfl, hn, rfl⟩
      · rintro ⟨_, n, rfl, hn, rfl⟩
        exact ⟨n, hn, rfl⟩

/-- A field is resolved to the object that it leads to for the record's identity. -/
lemma resolve?_eq_some_iff {r : Record} {field : String} {entity : Entity} :
    r.resolve? field = some entity ↔ Resolves r r.id field entity := by
  unfold resolve? collection?
  cases hchild : without? collectionEnding field with
  | some child =>
    have hfield := without?_eq_some_iff.1 hchild
    by_cases hid : 0 < r.id.toInt
    · simp only [hid, if_true, Option.some.injEq]
      constructor
      · rintro rfl
        exact .collection hfield hid
      · intro h
        cases h with
        | @collection child' hfield' _ =>
          have hchild' := without?_eq_some_iff.2 hfield'
          rw [hchild] at hchild'
          cases hchild'
          rfl
        | foreign hnone _ _ => exact absurd hid (Int.not_lt.2 (hnone child hfield))
    · simp only [hid, if_false, Option.map_eq_some_iff, foreign?_eq_some_iff]
      constructor
      · rintro ⟨_, ⟨key, n, hkey, hn, rfl⟩, rfl⟩
        exact .foreign (fun _ _ => Int.not_lt.1 hid) hkey hn
      · intro h
        cases h with
        | collection _ hid' => exact absurd hid' hid
        | foreign _ hkey hn => exact ⟨_, ⟨_, _, hkey, hn, rfl⟩, rfl⟩
  | none =>
    have hnone := without?_eq_none_iff.1 hchild
    simp only [Option.map_eq_some_iff, foreign?_eq_some_iff]
    constructor
    · rintro ⟨_, ⟨key, n, hkey, hn, rfl⟩, rfl⟩
      exact .foreign (fun child hfield => absurd hfield (hnone child)) hkey hn
    · intro h
      cases h with
      | collection hfield _ => exact absurd hfield (hnone _)
      | foreign _ hkey hn => exact ⟨_, ⟨_, _, hkey, hn, rfl⟩, rfl⟩

/-- The identity of the record matters for collections alone, and there only one that a stored record
can have. -/
lemma Resolves.of_iff {r : Record} {id : Int64} {field : String} {entity : Entity}
    (h : Resolves r id field entity) (id' : Int64) :
    Resolves r id' field entity ↔
      without? collectionEnding field = none ∨ id = id' ∨ id.toInt ≤ 0 ∧ id'.toInt ≤ 0 := by
  cases h with
  | @collection child hfield hid =>
    have hchild := without?_eq_some_iff.2 hfield
    constructor
    · intro h'
      generalize hentity : Relation.many _ = entity at h'
      cases h' with
      | @collection child' hfield' hid' =>
        have hfilters := congrArg RecordSetOf.filters (Relation.many.inj hentity)
        have hentries := congrArg OrderedMap.entries hfilters
        simp [RecordSetOf.addFilter, RecordSetOf.invalidate, RecordSetOf.ofTable,
          OrderedMap.insert, OrderedMap.empty, Entries.put] at hentries
        exact .inr (.inl hentries)
      | foreign _ _ _ => cases hentity
    · rintro (hnone | rfl | ⟨hle, -⟩)
      · rw [hchild] at hnone
        cases hnone
      · exact .collection hfield hid
      · exact absurd hid (Int.not_lt.2 hle)
  | @foreign key n hnone hkey hn =>
    constructor
    · intro h'
      cases hchild : without? collectionEnding field with
      | none => exact .inl rfl
      | some child =>
        have hfield := without?_eq_some_iff.1 hchild
        generalize hentity : Relation.one _ = entity at h'
        cases h' with
        | collection _ _ => cases hentity
        | foreign hnone' _ _ => exact .inr (.inr ⟨hnone child hfield, hnone' child hfield⟩)
    · intro h'
      refine .foreign ?_ hkey hn
      intro child hfield
      rcases h' with hchild | rfl | ⟨-, hle⟩
      · exact absurd hfield (without?_eq_none_iff.1 hchild child)
      · exact hnone child hfield
      · exact hle

/-- A value that is staged for another field leaves the identity. -/
lemma id_stage {field : String} (h : field ≠ idName) (r : Record) (v : Value) :
    (r.stage field v).id = r.id := by
  simp only [id, current?_stage, h.symm, if_false]

/-- What is kept after a change was kept before, and not found by the value that changed. -/
lemma kept_stage {r : Record} {changed field : String} {v : Value} {entity : Entity}
    (h : Entries.get? field (r.stage changed v).relations = some entity) :
    Entries.get? field r.relations = some entity ∧ changed ≠ field ++ foreignKeyEnding := by
  unfold stage at h
  cases hrelation : without? foreignKeyEnding changed with
  | none =>
    simp only [hrelation] at h
    exact ⟨h, without?_eq_none_iff.1 hrelation field⟩
  | some relation =>
    simp only [hrelation, Entries.get?_remove] at h
    split at h
    · cases h
    next hne =>
      refine ⟨h, ?_⟩
      intro hchanged
      rw [hchanged, without?_eq_some_iff.2 rfl] at hrelation
      exact hne (Option.some.inj hrelation)

/-- What a field is resolved to does not depend on the fields other than its column. -/
lemma Resolves.stage {r : Record} {id : Int64} {changed field : String} {entity : Entity}
    (h : Resolves r id field entity) (hne : changed ≠ field ++ foreignKeyEnding) (v : Value) :
    Resolves (r.stage changed v) id field entity := by
  cases h with
  | collection hfield hid => exact .collection hfield hid
  | foreign hnone hkey hn =>
    refine .foreign hnone ?_ hn
    rw [current?_stage, if_neg hne.symm]
    exact hkey

/-- What a record keeps resolves its fields for some identities of the record. -/
def KeptFor (ids : Int64 → Prop) (r : Record) : Prop :=
  ∀ field entity, Entries.get? field r.relations = some entity →
    ∃ id, (ids id ∨ without? collectionEnding field = none) ∧ Resolves r id field entity

variable {ids : Int64 → Prop} {r : Record}

/-- A record that keeps nothing keeps nothing wrong. -/
lemma keptFor_of_empty (h : r.relations = []) : KeptFor ids r := by
  intro field entity hkept
  rw [h] at hkept
  cases hkept

/-- What is kept for some identities is kept for more of them. -/
lemma KeptFor.mono {ids' : Int64 → Prop} (h : KeptFor ids r) (hids : ∀ id, ids id → ids' id) :
    KeptFor ids' r := by
  intro field entity hkept
  obtain ⟨id, hid, hresolves⟩ := h field entity hkept
  exact ⟨id, hid.imp (hids id) fun hnone => hnone, hresolves⟩

/-- What is kept still resolves its fields when a value is staged, as the field of that column is
dropped. -/
lemma KeptFor.stage (h : KeptFor ids r) (changed : String) (v : Value) :
    KeptFor ids (r.stage changed v) := by
  intro field entity hkept
  obtain ⟨hkept, hne⟩ := kept_stage hkept
  obtain ⟨id, hid, hresolves⟩ := h field entity hkept
  exact ⟨id, hid, hresolves.stage hne v⟩

/-- What a field is resolved to can be kept. -/
lemma KeptFor.keep (h : KeptFor ids r) {field : String} {entity : Entity}
    (hid : ids r.id ∨ without? collectionEnding field = none)
    (hresolve : r.resolve? field = some entity) : KeptFor ids (r.keep field entity) := by
  have hkeep {id : Int64} {field' : String} {entity' : Entity}
      (hresolves : Resolves r id field' entity') :
      Resolves (r.keep field entity) id field' entity' := by
    cases hresolves with
    | collection hfield hid => exact .collection hfield hid
    | foreign hnone hkey hn => exact .foreign hnone hkey hn
  intro field' entity' hkept
  simp only [Record.keep, Entries.get?_put] at hkept
  split at hkept
  next hfield =>
    cases hkept
    subst hfield
    exact ⟨r.id, hid, hkeep (resolve?_eq_some_iff.1 hresolve)⟩
  next =>
    obtain ⟨id, hid', hresolves⟩ := h field' entity' hkept
    exact ⟨id, hid', hkeep hresolves⟩

/-- To look at a field keeps at most what the field is resolved to. -/
lemma KeptFor.look (h : KeptFor ids r) {field : String}
    (hid : ids r.id ∨ without? collectionEnding field = none) : KeptFor ids (r.look field).2 := by
  unfold Record.look read
  split
  · cases r.current? field with
    | some v => exact h
    | none =>
      cases Entries.get? field r.relations with
      | some entity => exact h
      | none =>
        cases hresolve : r.resolve? field with
        | some entity => exact h.keep hid hresolve
        | none => exact h
  · exact h

/-- To look at a field leaves the identity. -/
lemma id_look (r : Record) (field : String) : (r.look field).2.id = r.id := by
  rw [id, id, current?_look]

/-- To write to a field keeps what resolves the fields for the identity afterwards. -/
lemma KeptFor.write (h : KeptFor ids r) {field : String} {v : Value}
    (hid : ids (r.write field v).2.id) : KeptFor ids (r.write field v).2 := by
  revert hid
  unfold Record.write
  split
  · split
    · intro hid
      apply KeptFor.stage
      apply h.look
      by_cases hname : field = idName
      · -- the identity is no collection, whatever becomes of it
        right
        rw [hname]
        decide
      · left
        rwa [id_stage hname, id_look] at hid
    · intro hid
      rw [id_look] at hid
      exact h.look (.inl hid)
  · exact fun _ => h

/-- To clear a field adds nothing to what is kept. -/
lemma KeptFor.clear (h : KeptFor ids r) (field : String) : KeptFor ids (r.clear field) := by
  unfold Record.clear
  split
  · exact h.stage field _
  · exact h

/-- An operation on a fetched record keeps what resolves its fields for the identities before, or for
the one that the record has afterwards. -/
lemma KeptFor.effect (h : KeptFor ids r) {op : Operation} (hid : ids (op.effect r).id) :
    KeptFor ids (op.effect r) := by
  have hlook (field : String) (hid : ids (r.look field).2.id) : KeptFor ids (r.look field).2 := by
    rw [id_look] at hid
    exact h.look (.inl hid)
  cases op with
  | get field => exact hlook field hid
  | value field => exact hlook field hid
  | one field => exact hlook field hid
  | many field => exact hlook field hid
  | typed field => exact hlook field hid
  | set field v => exact h.write hid
  | unset field => exact h.clear field
  | _ => exact h

/-- Operations that do not change the identity leave it. -/
lemma id_effect {op : Operation} (h : op.changed? ≠ some idName) (r : Record) :
    (op.effect r).id = r.id := by
  cases op with
  | get field => exact id_look r field
  | value field => exact id_look r field
  | one field => exact id_look r field
  | many field => exact id_look r field
  | typed field => exact id_look r field
  | set field v =>
    have hname : field ≠ idName := fun heq => h (congrArg some heq)
    unfold Operation.effect Record.write
    dsimp only
    split
    · split
      · exact (id_stage hname _ v).trans (id_look r field)
      · exact id_look r field
    · rfl
  | unset field =>
    have hname : field ≠ idName := fun heq => h (congrArg some heq)
    unfold Operation.effect Record.clear
    dsimp only
    split
    · exact id_stage hname r _
    · rfl
  | _ => rfl

/-- What a record keeps resolves its fields for some identities, and nothing is kept before the row is
fetched. -/
structure Keeping (ids : Int64 → Prop) (r : Record) : Prop where
  keptFor : KeptFor ids r
  fetched : r.isLazy = true → r.relations = []

/-- An operation keeps what resolves its fields for the identities before, or for the one that the
record has afterwards. -/
lemma Keeping.doing {op : Operation} {s s' : Focus Record} {outcome : Except Error Unit}
    (h : Keeping ids s.self) (hdoing : Doing op s outcome s') (hid : ids s'.self.id) :
    Keeping ids s'.self := by
  cases hdoing with
  | described _ _ => exact h
  | acted _ _ hacting =>
    cases hacting with
    | failed hhydrate =>
      have hself := (hydrating_of_runs hhydrate).self_eq
      rw [hself]
      exact h
    | @done s₁ hhydrate =>
      have hfetched := (hydrating_of_runs hhydrate).isLazy_eq
      have hkept₁ : KeptFor ids s₁.self := by
        cases hydrating_of_runs hhydrate with
        | known _ => exact h.keptFor
        | @received rows _ hwaiting _ =>
          apply keptFor_of_empty
          cases rows <;> exact h.fetched hwaiting
      refine ⟨hkept₁.effect hid, ?_⟩
      intro hlazy
      rw [isLazy_of_stored (stored_effect op s₁.self), hfetched] at hlazy
      cases hlazy

/-- A record that is made keeps nothing. -/
lemma keeping_make (table : String) (origin : Origin) : Keeping ids (origin.make table) := by
  have hempty : (origin.make table).relations = [] := by cases origin <;> rfl
  exact ⟨keptFor_of_empty hempty, fun _ => hempty⟩

/-- An identity that a record had in a history. -/
def Had (r₀ : Record) (events : List Event) (id : Int64) : Prop :=
  ∃ earlier before, earlier <:+ events ∧ History r₀ earlier before ∧ before.id = id

/-- A record keeps what resolves its fields for identities that it had. -/
lemma keeping_of_history {table : String} {origin : Origin} {events : List Event} {r : Record}
    (h : History (origin.make table) events r) :
    Keeping (Had (origin.make table) events) r := by
  induction h with
  | start => exact keeping_make table origin
  | @step events r op db outcome r' db' hhistory hrun ih =>
    refine Keeping.doing (s := ⟨r, db⟩) ⟨ih.keptFor.mono ?_, ih.fetched⟩ (doing_of_runs hrun) ?_
    · rintro id ⟨earlier, before, hsuffix, hbefore, hid⟩
      exact ⟨earlier, before, hsuffix.trans (List.suffix_cons _ events), hbefore, hid⟩
    · exact ⟨_, r', List.suffix_rfl, hhistory.step hrun, rfl⟩

/-- A record whose identity is not changed keeps what resolves its fields. -/
lemma keeping_of_unchanged {table : String} {origin : Origin} {events : List Event} {r : Record}
    (h : History (origin.make table) events r)
    (hunchanged : ∀ event ∈ events, event.operation.changed? ≠ some idName) :
    Keeping (fun id => id = r.id) r := by
  induction h with
  | start => exact keeping_make table origin
  | @step events r op db outcome r' db' hhistory hrun ih =>
    obtain ⟨hop, hevents⟩ := List.forall_mem_cons.1 hunchanged
    obtain ⟨hkept, hfetched⟩ := ih hevents
    have hdoing := doing_of_runs hrun
    refine Keeping.doing (s := ⟨r, db⟩) ⟨?_, hfetched⟩ hdoing rfl
    cases hlazy : r.isLazy with
    | true => exact keptFor_of_empty (hfetched hlazy)
    | false =>
      have hid : r'.id = r.id := by
        generalize hs' : (⟨r', db'⟩ : Focus Record) = s' at hdoing
        cases hdoing with
        | described _ _ =>
          cases hs'
          rfl
        | acted _ _ hacting =>
          cases hacting with
          | failed hhydrate => cases (runs_hydrate hlazy hhydrate).1
          | done hhydrate =>
            obtain ⟨-, rfl⟩ := runs_hydrate hlazy hhydrate
            cases hs'
            exact id_effect hop r
      rw [hid]
      exact hkept

/-- A kept object is the one that its field resolves to for an identity that the record has or had. It
is the one that would be made now if and only if the field is no collection or this identity is that
of the record now, both being alike if no stored record can have them. So it always is unless the
identity was changed. -/
theorem kept_of_history {table : String} {origin : Origin} {events : List Event} {r : Record}
    {field : String} {entity : Entity} (h : History (origin.make table) events r)
    (hkept : Entries.get? field r.relations = some entity) :
    (∃ earlier before, earlier <:+ events ∧ History (origin.make table) earlier before ∧
      Resolves r before.id field entity ∧
      (r.resolve? field = some entity ↔
        without? collectionEnding field = none ∨ before.id = r.id ∨
          before.id.toInt ≤ 0 ∧ r.id.toInt ≤ 0)) ∧
      ((∀ event ∈ events, event.operation.changed? ≠ some idName) →
        r.resolve? field = some entity) := by
  have hiff {id : Int64} (hresolves : Resolves r id field entity) :=
    (resolve?_eq_some_iff (r := r)).trans (hresolves.of_iff r.id)
  constructor
  · obtain ⟨id, hid, hresolves⟩ := (keeping_of_history h).keptFor field entity hkept
    cases hid with
    | inl hhad =>
      obtain ⟨earlier, before, hsuffix, hhistory, rfl⟩ := hhad
      exact ⟨earlier, before, hsuffix, hhistory, hresolves, hiff hresolves⟩
    | inr hnone =>
      have hnow : Resolves r r.id field entity := (hresolves.of_iff r.id).2 (.inl hnone)
      exact ⟨events, r, List.suffix_rfl, h, hnow, hiff hnow⟩
  · intro hunchanged
    obtain ⟨id, hid, hresolves⟩ := (keeping_of_unchanged h hunchanged).keptFor field entity hkept
    rw [hiff hresolves]
    cases hid with
    | inl heq => exact .inr (.inl heq)
    | inr hnone => exact .inl hnone

/-- A database that cannot be connected. -/
def unreachable : Database :=
  .ofEnvironment .empty .forgetful

/-- A widget, the parts of which are looked at before it gets another identity. -/
def renumbered : Focus Record :=
  afterOperations [.many "part_list", .one "maker", .set "id" (.int 9)]
    ⟨.ofRow "widget" (.ofList [("id", .int 7), ("maker_id", .int 3)]), unreachable⟩

/-- The renumbered widget has a history. -/
lemma exists_history_renumbered : ∃ events, History
    (Origin.make "widget" (.row (.ofList [("id", .int 7), ("maker_id", .int 3)]))) events
      renumbered.self := by
  obtain ⟨more, hmore⟩ := exists_history_afterOperations (s := ⟨_, unreachable⟩) .start
    [.many "part_list", .one "maker", .set "id" (.int 9)]
  exact ⟨_, hmore⟩

/-- The maker of the widget is kept, and still the one that would be made anew. -/
theorem kept_maker : ∃ events entity, History
    (Origin.make "widget" (.row (.ofList [("id", .int 7), ("maker_id", .int 3)]))) events
      renumbered.self ∧
    Entries.get? "maker" renumbered.self.relations = some entity ∧
    renumbered.self.resolve? "maker" = some entity := by
  obtain ⟨events, hhistory⟩ := exists_history_renumbered
  obtain ⟨entity, hkept⟩ : ∃ entity, Entries.get? "maker" renumbered.self.relations = some entity :=
    Option.isSome_iff_exists.1 (by decide)
  obtain ⟨earlier, before, -, -, -, hiff⟩ := (kept_of_history hhistory hkept).1
  exact ⟨events, entity, hhistory, hkept, hiff.2 (.inl (by decide))⟩

/-- The key and the value of the filter of a set with one. -/
def filterOf : Entity → Option (String × Value)
  | .many set => set.filters.entries.head?
  | .one _ => none

/-- The parts that are kept are those of the identity that the widget had. -/
theorem not_resolves_renumbered :
    ¬ ∀ table origin events r, History (Origin.make table origin) events r →
      ∀ field entity, Entries.get? field r.relations = some entity →
        r.resolve? field = some entity := by
  intro h
  obtain ⟨events, hhistory⟩ := exists_history_renumbered
  obtain ⟨entity, hkept⟩ :
      ∃ entity, Entries.get? "part_list" renumbered.self.relations = some entity :=
    Option.isSome_iff_exists.1 (by decide)
  have hresolve := h _ _ events _ hhistory "part_list" entity hkept
  rw [← hkept] at hresolve
  have hfilter := congrArg (Option.map filterOf) hresolve
  revert hfilter
  decide

end Record
end RecordAccess
