import RecordAccess.Proofs.CommandLine.FilterKey
import RecordAccess.Proofs.Record.Overlay
import RecordAccess.Proofs.Record.Relations
import RecordAccess.Proofs.Text.Lowered

/-!
# The collections of a record

A collection `c_list` of a record of table `t` is filtered by the key `t_id`, which is put together from
the name of the table and is then read like any other filter key. It is read as the column of that name
if the name begins with no character of a comparator and has no dot (`column_eq_iff`), and only then the
collection holds the rows that point back at the record (`holdsChildren_iff`).
-/

namespace RecordAccess
open Access Database
open CommandLine (isComparatorChar)

/-- The column of a path is the path itself, or else shorter. -/
lemma FieldPath.column_ofText (path : String) :
    '.' ∉ path.toList ∧ ofText path = ⟨[], path⟩ ∨
      '.' ∈ path.toList ∧ (ofText path).column.length < path.length := by
  by_cases hdot : '.' ∈ path.toList
  · refine .inr ⟨hdot, ?_⟩
    obtain ⟨after, before, hreverse, hafter⟩ := List.eq_append_cons_of_mem (List.mem_reverse.2 hdot)
    have hpath : path.toList = before.reverse ++ '.' :: after.reverse := by
      rw [← List.reverse_reverse path.toList, hreverse]
      simp
    have hlast : '.' ∉ after.reverse := by simpa using hafter
    have hlength := congrArg List.length hpath
    rw [String.length_toList] at hlength
    rw [ofText, hpath, cutAtLast?_append hlast before.reverse, hlength]
    simp
    omega
  · refine .inl ⟨hdot, ?_⟩
    rw [ofText, cutAtLast?_eq_none hdot]

/-- A name is read as one in a key: it has no dot, and begins with no character of a comparator. -/
def IsPlain (name : String) : Prop :=
  (∀ c ∈ name.toList.head?, isComparatorChar c = false) ∧ '.' ∉ name.toList

/-- A plain name is a key without a comparator, and the path of a column of the table itself. -/
lemma IsPlain.read {key : String} (h : IsPlain key) :
    Comparator.split key = (.eq, key) ∧ FieldPath.ofText key = ⟨[], key⟩ := by
  obtain ⟨hhead, hdot⟩ := h
  have hsplit : Comparator.split ("" ++ key) = (.eq, key) :=
    Comparator.split_append List.mem_cons_self hhead
  rw [String.empty_append] at hsplit
  obtain ⟨-, hpath⟩ | ⟨hmem, -⟩ := FieldPath.column_ofText key
  · exact ⟨hsplit, hpath⟩
  · exact absurd hmem hdot

/-- The characters of the comparators are four. -/
lemma eq_of_isComparatorChar {c : Char} (h : isComparatorChar c = true) :
    c = '=' ∨ c = '!' ∨ c = '<' ∨ c = '>' := by
  simpa [isComparatorChar, or_assoc] using h

/-- Each character of a comparator is one. -/
lemma Comparator.exists_spelling {c : Char} (h : isComparatorChar c = true) :
    ∃ e ∈ spellings, e.1.toList = [c] := by
  obtain rfl | rfl | rfl | rfl := eq_of_isComparatorChar h <;> decide

/-- A key is read as the column of its name if it is plain. -/
lemma column_eq_iff (key : String) :
    (FieldPath.ofText (Comparator.split key).2).column = key ↔ IsPlain key := by
  constructor
  · intro hcolumn
    obtain ⟨e, he, rest, hkey, hsplit, hlongest⟩ := Comparator.exists_longest key
    rw [hsplit] at hcolumn
    have hlength : key.length = e.1.length + rest.length := by rw [hkey, String.length_append]
    -- what is read is no longer than what is left of the key
    obtain ⟨hdot, hrest⟩ | ⟨-, hshorter⟩ := FieldPath.column_ofText rest
    · have hsame : rest = key := by rw [← hcolumn, hrest]
      refine ⟨?_, hsame ▸ hdot⟩
      intro c hc
      by_contra hcomparator
      obtain ⟨e', he', hspelling⟩ := Comparator.exists_spelling (Bool.eq_true_of_not_eq_false hcomparator)
      have hprefix : e'.1.toList <+: key.toList := by
        obtain ⟨more, hmore⟩ := List.head?_eq_some_iff.1 hc
        exact ⟨more, by rw [hspelling, hmore]; rfl⟩
      have hle := hlongest e' he' hprefix
      rw [← String.length_toList, hspelling, List.length_singleton] at hle
      rw [hsame] at hlength
      omega
    · rw [hcolumn] at hshorter
      omega
  · intro hplain
    obtain ⟨hsplit, hpath⟩ := hplain.read
    rw [hsplit, hpath]

/-- The characters of the comparators come before the letters. -/
lemma lt_of_isComparatorChar {c : Char} (h : isComparatorChar c = true) : c.toNat < 65 := by
  obtain rfl | rfl | rfl | rfl := eq_of_isComparatorChar h <;> decide

/-- Letter case does not matter for it. -/
lemma isPlain_lowercase (table : String) : IsPlain (lowercase table) ↔ IsPlain table := by
  refine and_congr ?_ (not_congr (mem_lowercase_iff (by decide) table))
  constructor
  · intro h c hc
    by_contra hcomparator
    have hmark := lt_of_isComparatorChar (Bool.eq_true_of_not_eq_false hcomparator)
    exact hcomparator (h c ((head?_lowercase_iff hmark table).2 hc))
  · intro h c hc
    by_contra hcomparator
    have hmark := lt_of_isComparatorChar (Bool.eq_true_of_not_eq_false hcomparator)
    exact hcomparator (h c ((head?_lowercase_iff hmark table).1 hc))

/-- A name is plain if it is so with the ending of a foreign key behind it. -/
lemma isPlain_append (name : String) :
    IsPlain (name ++ Record.foreignKeyEnding) ↔ IsPlain name := by
  have hending : Record.foreignKeyEnding.toList = ['_', 'i', 'd'] := rfl
  rw [IsPlain, IsPlain, String.toList_append, hending]
  cases name.toList with
  | nil => simp [isComparatorChar]
  | cons c cs => simp

namespace Record

/-- The rows of a table that point back at a record of another one, as a query of that table alone with
one condition. -/
structure HoldsChildren (table child : String) (id : Int64) (set : RecordSet) : Prop where
  select : ∀ b, set.selectFor b =
    { backend := b
      table := lowercase child
      joins := []
      conditions :=
        [⟨⟨lowercase child, lowercase table ++ foreignKeyEnding⟩, .compare .eq (integerText id.toInt)⟩]
      order := [] }
  source : ∀ b, (set.selectFor b).fromClause =
    "FROM " ++ b.quoteName (lowercase child) ++ "\nWHERE " ++ b.quoteName (lowercase child) ++ "." ++
      b.quoteName (lowercase table ++ foreignKeyEnding) ++ " = " ++
        b.quoteLiteral (integerText id.toInt)

/-- The set that a collection is found to be. -/
def childSet (key child : String) (id : Int64) : RecordSet :=
  (RecordSetOf.ofTable child).addFilter key (.int id)

/-- The query of a collection is one of the child's table, with its key as the one condition. -/
lemma selectFor_childSet (key child : String) (id : Int64) (b : Backend) :
    (childSet key child id).selectFor b =
      { backend := b
        table := lowercase child
        joins := Join.ofPaths (lowercase child) [.ofText (Comparator.split key).2]
        conditions := [.ofFilter (lowercase child) key (.int id)]
        order := [] } := by
  simp [childSet, RecordSetOf.selectFor, Select.compile, RecordSetOf.addFilter,
    RecordSetOf.invalidate, RecordSetOf.ofTable, lowercase_lowercase, Select.paths,
    OrderedMap.keys, OrderedMap.insert, OrderedMap.empty, Entries.put]

/-- The collection of a table holds the children if and only if the table's name is plain. -/
lemma holdsChildren_childSet_iff (table child : String) (id : Int64) :
    HoldsChildren table child id (childSet (lowercase table ++ foreignKeyEnding) child id) ↔
      IsPlain table := by
  rw [← isPlain_lowercase, ← isPlain_append]
  generalize hkey : lowercase table ++ foreignKeyEnding = key
  constructor
  · intro h
    apply (column_eq_iff key).1
    have hselect := h.select .sqlite
    rw [selectFor_childSet, hkey] at hselect
    have hconditions := congrArg Select.conditions hselect
    simp only [List.cons.injEq, and_true] at hconditions
    have hcolumn := congrArg (fun condition => condition.column.column) hconditions
    simpa only [Condition.ofFilter, ColumnName.ofPath] using hcolumn
  · intro hplain
    obtain ⟨hsplit, hpath⟩ := hplain.read
    have hselect (b : Backend) : (childSet key child id).selectFor b =
        { backend := b
          table := lowercase child
          joins := []
          conditions := [⟨⟨lowercase child, key⟩, .compare .eq (integerText id.toInt)⟩]
          order := [] } := by
      rw [selectFor_childSet, Condition.ofFilter, hsplit]
      simp only [hpath]
      rfl
    subst hkey
    refine ⟨hselect, fun b => ?_⟩
    rw [hselect]
    simp only [Select.fromClause, joinTexts, List.map_cons, List.map_nil, List.isEmpty_cons,
      Condition.sql, ColumnName.sql, Comparator.sql, String.append_assoc]
    rfl

section Fetched
variable {s s₁ : Focus Record} {table : String} (child : String)

/-- A collection that is no column and not kept is made of the name of the record's table. -/
lemma runs_many?_of_fresh (hhydrate : Runs hydrate s (.ok ()) s₁)
    (htable : s₁.self.table = lowercase table) (hid : 0 < s₁.self.id.toInt)
    (hvalue : s₁.self.current? (child ++ collectionEnding) = none)
    (hkept : Entries.get? (child ++ collectionEnding) s₁.self.relations = none) :
    ∃ s', Runs (many? (child ++ collectionEnding)) s
      (.ok (some (childSet (lowercase table ++ foreignKeyEnding) child s₁.self.id))) s' := by
  have hchild : without? collectionEnding (child ++ collectionEnding) = some child :=
    without?_eq_some_iff.2 rfl
  have hfield : s₁.self.hasField (child ++ collectionEnding) = true := by simp [hasField, hchild]
  have hresolve : s₁.self.resolve? (child ++ collectionEnding) =
      some (.many (childSet (lowercase table ++ foreignKeyEnding) child s₁.self.id)) := by
    simp only [resolve?, collection?, hchild, if_pos hid, htable]
    rfl
  have hrun := (fetches_many? (child ++ collectionEnding)).runs_of_hydrate hhydrate
  simp only [look, hfield, if_true, read, hvalue, hkept, hresolve] at hrun
  exact ⟨_, hrun⟩

/-- A collection holds the rows that point back at the record if and only if the name of the table of
the record is plain. -/
theorem holdsChildren_iff (hhydrate : Runs hydrate s (.ok ()) s₁)
    (htable : s₁.self.table = lowercase table) (hid : 0 < s₁.self.id.toInt)
    (hvalue : s₁.self.current? (child ++ collectionEnding) = none)
    (hkept : Entries.get? (child ++ collectionEnding) s₁.self.relations = none) :
    (∃ set s', Runs (many? (child ++ collectionEnding)) s (.ok (some set)) s' ∧
      HoldsChildren table child s₁.self.id set) ↔ IsPlain table := by
  obtain ⟨s', hrun⟩ := runs_many?_of_fresh child hhydrate htable hid hvalue hkept
  rw [← holdsChildren_childSet_iff table child s₁.self.id]
  constructor
  · rintro ⟨set, s'', hmany, hholds⟩
    obtain ⟨⟨⟩, -⟩ := hrun.unique hmany
    exact hholds
  · exact fun hholds => ⟨_, s', hrun, hholds⟩

end Fetched

/-- A row of a table, by the number of seven and a name. -/
def seventh (table : String) : Focus Record :=
  ⟨.ofRow table (.ofList [("id", .int 7), ("name", .text "bolt")]), unreachable⟩

/-- The seventh row of a table need not be fetched. -/
lemma runs_hydrate_seventh (table : String) :
    Runs hydrate (seventh table) (.ok ()) (seventh table) :=
  runs_hydrate_of_isLazy rfl

/-- The parts of a widget are found by the column for widgets. -/
theorem holdsChildren_widget :
    Runs hydrate (seventh "Widget") (.ok ()) (seventh "Widget") ∧
      (seventh "Widget").self.table = lowercase "Widget" ∧
      0 < (seventh "Widget").self.id.toInt ∧
      (seventh "Widget").self.current? ("Part" ++ collectionEnding) = none ∧
      Entries.get? ("Part" ++ collectionEnding) (seventh "Widget").self.relations = none ∧
      ∃ set s', Runs (many? ("Part" ++ collectionEnding)) (seventh "Widget") (.ok (some set)) s' ∧
        HoldsChildren "Widget" "Part" 7 set := by
  have hplain : IsPlain "Widget" := ⟨fun c hc => Option.some.inj hc ▸ rfl, by decide⟩
  refine ⟨runs_hydrate_seventh _, rfl, by decide, rfl, rfl, ?_⟩
  exact (holdsChildren_iff "Part" (runs_hydrate_seventh _) rfl (by decide) rfl rfl).2 hplain

/-- The parts of a row of a table whose name begins like a comparison are not the rows that point back
at it. -/
theorem not_holdsChildren_compared :
    ¬ ∀ (s s₁ : Focus Record) (table child : String), Runs hydrate s (.ok ()) s₁ →
      s₁.self.table = lowercase table → 0 < s₁.self.id.toInt →
      s₁.self.current? (child ++ collectionEnding) = none →
      Entries.get? (child ++ collectionEnding) s₁.self.relations = none →
      ∃ set s', Runs (many? (child ++ collectionEnding)) s (.ok (some set)) s' ∧
        HoldsChildren table child s₁.self.id set := by
  intro h
  have hid : 0 < (seventh "<widget").self.id.toInt := by decide
  obtain ⟨set, s', hmany, hholds⟩ :=
    h _ _ "<widget" "part" (runs_hydrate_seventh _) rfl hid rfl rfl
  obtain ⟨s'', hrun⟩ :=
    runs_many?_of_fresh "part" (runs_hydrate_seventh "<widget") rfl hid rfl rfl
  obtain ⟨⟨⟩, -⟩ := hrun.unique hmany
  have hplain := (holdsChildren_childSet_iff "<widget" "part" _).1 hholds
  exact absurd (hplain.1 '<' rfl) (by decide)

end Record
end RecordAccess
