import Mathlib.Data.List.Forall2
import Mathlib.Data.List.Nodup
import RecordAccess.Proofs.Sql.Joins
import RecordAccess.Proofs.Sql.Lexer

/-!
# Names in a statement

A statement introduces the name of its base table and those of its joins, and its conditions and its
order use them. What is meant by a chain of tables is `Ties`: a clause that introduces the
chain's name for its last table, and ties it to the name that the tables before go by. A chain
resolves (`Resolves`) if it and all its prefixes have such a clause.

Names are chains written with underscores between the tables, so that different chains can have one
name: `a_b` and `b` behind `a` have, and so have a base table and a chain of a table of that name
(`not_scoped_underscored`). Two names are told apart as they are printed, without NUL characters. The
headline `scoped_iff` says that this is all that can go wrong: the names of a statement are
introduced once and resolve if and only if no two prefixes share a name and none has that of the base
table (`Unambiguous`).
-/

namespace RecordAccess.Sql

/-- The names that a statement introduces, as they are printed. -/
def introduced (s : Select) : List String := (s.table :: s.joins.map Join.name).map printed

/-- A join is the one that a chain means: it gives the chain's name to the last table, and ties it by
the column and the name of the table before. -/
structure Ties (base : String) (chain : List String) (j : Join) : Prop where
  name : printed j.name = printed (qualifier base chain)
  table : printed j.table = printed (lastTable base chain)
  column : printed j.parentTable = printed (lastTable base chain.dropLast)
  parent : printed j.parentName = printed (qualifier base chain.dropLast)

/-- The tables of a chain are joined, each to the one before it and the first to the base table. -/
inductive Resolves (s : Select) : List String → Prop where
  | base : Resolves s []
  | join {chain table j} :
    Resolves s chain →
    j ∈ s.joins →
    Ties s.table (chain ++ [table]) j →
    Resolves s (chain ++ [table])

/-- A column is qualified by the name of a path's chain, and the chain resolves. -/
structure Qualified (s : Select) (path : FieldPath) (column : ColumnName) : Prop where
  owner : printed column.owner = printed (qualifier s.table path.chain)
  resolves : Resolves s path.chain

/-- A statement introduces each name once, and the columns of its conditions and of its order are
qualified as the filters and sorts say. -/
structure Scoped (s : Select) (filters : Filters) (sorts : Sorts) : Prop where
  once : (introduced s).Nodup
  filters : List.Forall₂
    (fun key condition => Qualified s (.ofText (Comparator.split key).2) condition.column)
    filters.keys s.conditions
  sorts : List.Forall₂ (fun key item => Qualified s (.ofText key) item.column) sorts.keys s.order

/-- Chains have names of their own, which are not that of the base table. -/
structure Unambiguous (base : String) (chains : List (List String)) : Prop where
  apart : ∀ p ∈ chains, ∀ q ∈ chains,
    printed (qualifier base p) = printed (qualifier base q) → p = q
  notBase : ∀ p ∈ chains, printed (qualifier base p) ≠ printed base

/-- What comes before the last table of a chain that resolves, resolves. -/
lemma Resolves.ofPrefix {s : Select} {chain path : List String} (h : Resolves s path)
    (hc : chain <+: path) : Resolves s chain := by
  induction h with
  | base =>
    obtain rfl := List.prefix_nil.1 hc
    exact .base
  | join hr hj ht ih =>
    cases List.prefix_concat_iff.1 hc with
    | inl heq =>
      subst heq
      exact .join hr hj ht
    | inr hc => exact ih hc

/-- A chain that resolves has the join that it means. -/
lemma Resolves.exists_ties {s : Select} {chain : List String} (h : Resolves s chain)
    (hne : chain ≠ []) : ∃ j ∈ s.joins, Ties s.table chain j := by
  cases h with
  | base => exact absurd rfl hne
  | join _ hj ht => exact ⟨_, hj, ht⟩

/-- The last table of a chain can be told from the chain's name and the tables before. -/
lemma lastTable_of_qualifier_eq {base : String} {chain : List String} {t u : String}
    (h : qualifier base (chain ++ [t]) = qualifier base (chain ++ [u])) : t = u := by
  by_cases hne : chain = []
  · subst hne
    exact h
  · rw [qualifier_concat base hne, qualifier_concat base hne] at h
    exact String.append_right_inj _ |>.1 h

/-- The join that is made for a chain is the one that it means. -/
lemma ties_ofPrefix (base : String) (chain : List String) :
    Ties base chain (.ofPrefix base chain) := ⟨rfl, rfl, rfl, rfl⟩

/-- Introduced names tell the joins apart, and from the base table. -/
lemma joins_of_nodup {s : Select} (h : (introduced s).Nodup) :
    (∀ j ∈ s.joins, printed j.name ≠ printed s.table) ∧
      ∀ j ∈ s.joins, ∀ k ∈ s.joins, printed j.name = printed k.name → j = k := by
  rw [introduced, List.map_cons, List.nodup_cons, List.map_map] at h
  obtain ⟨hbase, hjoins⟩ := h
  refine ⟨?_, ?_⟩
  · intro j hj heq
    exact hbase (heq ▸ List.mem_map_of_mem (f := printed ∘ Join.name) hj)
  · intro j hj k hk heq
    exact List.inj_on_of_nodup_map hjoins hj hk heq

section Joined
variable {s : Select} {paths : List FieldPath}

/-- The joins of a statement are those that some paths need, and all chains of these have the join
that they mean. -/
structure Tied (s : Select) (paths : List FieldPath) : Prop where
  joins : s.joins = Join.ofPaths s.table paths
  ties : ∀ p ∈ prefixes paths, ∃ j ∈ s.joins, Ties s.table p j

/-- A chain that has its join does not have the name of the base table. -/
lemma notBase_of_tied (honce : (introduced s).Nodup) (h : Tied s paths) :
    ∀ p ∈ prefixes paths, printed (qualifier s.table p) ≠ printed s.table := by
  intro p hp heq
  obtain ⟨j, hj, ht⟩ := h.ties p hp
  exact (joins_of_nodup honce).1 j hj (ht.name.trans heq)

/-- Chains that have their joins have names of their own. -/
lemma apart_of_tied (honce : (introduced s).Nodup) (h : Tied s paths) {p q : List String}
    (hp : p ∈ prefixes paths) (hq : q ∈ prefixes paths)
    (heq : printed (qualifier s.table p) = printed (qualifier s.table q)) : p = q := by
  have hnotBase := notBase_of_tied honce h
  obtain ⟨-, hinj⟩ := joins_of_nodup honce
  induction p using List.reverseRecOn generalizing q with
  | nil => exact absurd rfl (mem_prefixes.1 hp).1
  | append_singleton p t ih =>
    obtain rfl | ⟨q, u, hqu⟩ := List.eq_nil_or_concat q
    · exact absurd rfl (mem_prefixes.1 hq).1
    rw [List.concat_eq_append] at hqu
    subst hqu
    -- both names meet in one join, which also has the names of the tables before
    obtain ⟨j, hj, hjt⟩ := h.ties _ hp
    obtain ⟨k, hk, hkt⟩ := h.ties _ hq
    obtain rfl := hinj j hj k hk (hjt.name.trans (heq.trans hkt.name.symm))
    have hparents : printed (qualifier s.table p) = printed (qualifier s.table q) := by
      simpa using hjt.parent.symm.trans hkt.parent
    have hpq : p = q := by
      by_cases hpne : p = [] <;> by_cases hqne : q = []
      · rw [hpne, hqne]
      · subst hpne
        exact absurd hparents.symm (hnotBase q (mem_prefixes_of_concat hq hqne))
      · subst hqne
        exact absurd hparents (hnotBase p (mem_prefixes_of_concat hp hpne))
      · exact ih (mem_prefixes_of_concat hp hpne) (mem_prefixes_of_concat hq hqne) hparents
    subst hpq
    -- printed alike is not enough for the last tables, but the names themselves are joined once
    obtain ⟨j, hj, hname⟩ := Join.exists_mem_ofPaths s.table paths hp
    obtain ⟨k, hk, hname'⟩ := Join.exists_mem_ofPaths s.table paths hq
    rw [← h.joins] at hj hk
    obtain rfl := hinj j hj k hk (by rw [hname, hname', heq])
    rw [lastTable_of_qualifier_eq (hname.symm.trans hname')]

/-- Chains that resolve have names of their own if names are introduced once. -/
lemma unambiguous_of_resolves (hjoins : s.joins = Join.ofPaths s.table paths)
    (honce : (introduced s).Nodup) (hpaths : ∀ path ∈ paths, Resolves s path.chain) :
    Unambiguous s.table (prefixes paths) := by
  have h : Tied s paths := by
    refine ⟨hjoins, ?_⟩
    intro p hp
    obtain ⟨hne, path, hpath, hc⟩ := mem_prefixes.1 hp
    exact ((hpaths path hpath).ofPrefix hc).exists_ties hne
  refine ⟨?_, notBase_of_tied honce h⟩
  intro p hp q hq heq
  exact apart_of_tied honce h hp hq heq

/-- Chains with names of their own are introduced once each. -/
lemma nodup_of_unambiguous (hjoins : s.joins = Join.ofPaths s.table paths)
    (h : Unambiguous s.table (prefixes paths)) : (introduced s).Nodup := by
  have hbase : ∀ j ∈ s.joins, printed j.name ≠ printed s.table := by
    intro j hj
    obtain ⟨p, hp, rfl⟩ := Join.mem_ofPaths _ _ (hjoins ▸ hj)
    exact h.notBase p hp
  have hinj : ∀ j ∈ s.joins, ∀ k ∈ s.joins, printed j.name = printed k.name → j = k := by
    intro j hj k hk heq
    obtain ⟨p, hp, rfl⟩ := Join.mem_ofPaths _ _ (hjoins ▸ hj)
    obtain ⟨q, hq, rfl⟩ := Join.mem_ofPaths _ _ (hjoins ▸ hk)
    rw [h.apart p hp q hq heq]
  have hnodup : s.joins.Nodup := hjoins ▸ (Join.nodup_ofPaths _ _).of_map
  rw [introduced, List.map_cons, List.nodup_cons, List.map_map]
  refine ⟨?_, hnodup.map_on hinj⟩
  intro hmem
  obtain ⟨j, hj, heq⟩ := List.mem_map.1 hmem
  exact hbase j hj heq

/-- The chains of all paths resolve if no two of their prefixes share a name. -/
lemma resolves_of_unambiguous (hjoins : s.joins = Join.ofPaths s.table paths)
    (h : Unambiguous s.table (prefixes paths)) {p : List String} (hp : p ∈ prefixes paths) :
    Resolves s p := by
  induction p using List.reverseRecOn with
  | nil => exact .base
  | append_singleton p t ih =>
    have hbefore : Resolves s p := by
      by_cases hne : p = []
      · rw [hne]
        exact .base
      · exact ih (mem_prefixes_of_concat hp hne)
    obtain ⟨j, hj, hname⟩ := Join.exists_mem_ofPaths s.table paths hp
    obtain ⟨q, hq, rfl⟩ := Join.mem_ofPaths _ _ hj
    obtain rfl := h.apart q hq _ hp (congrArg printed hname)
    exact .join hbefore (hjoins ▸ hj) (ties_ofPrefix _ _)

/-- Names are introduced once and all chains resolve if and only if the chains are unambiguous. -/
lemma nodup_and_resolves_iff (hjoins : s.joins = Join.ofPaths s.table paths) :
    ((introduced s).Nodup ∧ ∀ path ∈ paths, Resolves s path.chain) ↔
      Unambiguous s.table (prefixes paths) := by
  constructor
  · intro ⟨honce, hpaths⟩
    exact unambiguous_of_resolves hjoins honce hpaths
  · intro h
    refine ⟨nodup_of_unambiguous hjoins h, ?_⟩
    intro path hpath
    by_cases hne : path.chain = []
    · rw [hne]
      exact .base
    · exact resolves_of_unambiguous hjoins h (mem_prefixes.2 ⟨hne, path, hpath, List.prefix_rfl⟩)

end Joined

/-- A path's column is qualified as it says as soon as the path's chain resolves. -/
lemma qualified_ofPath {s : Select} (path : FieldPath) :
    Qualified s path (.ofPath s.table path) ↔ Resolves s path.chain :=
  ⟨Qualified.resolves, fun h => ⟨by rw [owner_ofPath], h⟩⟩

/-- The columns made of the keys of a map are qualified as soon as the chains of the keys' paths
resolve. -/
lemma forall₂_qualified {α β : Type} {s : Select} {p : String → FieldPath}
    {c : β → ColumnName} {f : String × α → β} (m : OrderedMap α)
    (hf : ∀ entry, c (f entry) = .ofPath s.table (p entry.1)) :
    List.Forall₂ (fun key i => Qualified s (p key) (c i)) m.keys (m.entries.map f) ↔
      ∀ key ∈ m.keys, Resolves s (p key).chain := by
  rw [OrderedMap.keys, List.forall₂_map_left_iff, List.forall₂_map_right_iff, List.forall₂_same,
    List.forall_mem_map]
  apply forall₂_congr
  intro entry _
  rw [hf, qualified_ofPath]

/-- The columns are qualified as the keys say as soon as the chains of all paths resolve. -/
lemma scoped_iff_resolves {b : Backend} {table : String} {filters : Filters} {sorts : Sorts} :
    Scoped (.compile b table filters sorts) filters sorts ↔
      (introduced (.compile b table filters sorts)).Nodup ∧
        ∀ path ∈ Select.paths filters sorts, Resolves (.compile b table filters sorts) path.chain := by
  have hfilters := forall₂_qualified (s := .compile b table filters sorts)
    (p := fun key => .ofText (Comparator.split key).2) (c := Condition.column)
    (f := fun entry => .ofFilter (lowercase table) entry.1 entry.2) filters fun _ => rfl
  have hsorts := forall₂_qualified (s := .compile b table filters sorts)
    (p := .ofText) (c := OrderItem.column)
    (f := fun entry => .ofSort (lowercase table) entry.1 entry.2) sorts fun _ => rfl
  rw [Select.paths, List.forall_mem_append, List.forall_mem_map, List.forall_mem_map, ← hfilters,
    ← hsorts]
  exact ⟨fun h => ⟨h.once, h.filters, h.sorts⟩, fun h => ⟨h.1, h.2.1, h.2.2⟩⟩

/-- Names are introduced once and resolve if and only if the chains have names of their own, and then
two chains share a join only where they are the same. -/
theorem scoped_iff (b : Backend) (table : String) (filters : Filters) (sorts : Sorts) :
    let query := Select.compile b table filters sorts
    let chains := prefixes (Select.paths filters sorts)
    (Scoped query filters sorts ↔ Unambiguous query.table chains) ∧
      (Scoped query filters sorts → ∀ p ∈ chains, ∀ q ∈ chains, ∀ j ∈ query.joins,
        Ties query.table p j → Ties query.table q j → p = q) := by
  intro query chains
  have hiff : Scoped query filters sorts ↔ Unambiguous query.table chains := by
    rw [scoped_iff_resolves]
    exact nodup_and_resolves_iff rfl
  refine ⟨hiff, ?_⟩
  intro hscoped p hp q hq j _ hjp hjq
  exact (hiff.1 hscoped).apart p hp q hq (hjp.name.symm.trans hjq.name)

/-- Filters on a column of a table `a_b`, and on one of a table `b` behind a table `a`. -/
def underscored : Filters := .ofList [("a_b.x", .int 1), ("a.b.x", .int 2)]

/-- The name `a_b` is joined once, for the table `a_b`, so that the table `b` is not joined. -/
theorem not_scoped_underscored :
    ¬ Scoped (.compile .sqlite "orders" underscored .empty) underscored .empty := by
  intro h
  obtain ⟨-, hresolves⟩ := scoped_iff_resolves.1 h
  have hpath : FieldPath.mk ["a", "b"] "x" ∈ Select.paths underscored .empty := by decide
  obtain ⟨j, hj, ht⟩ := (hresolves _ hpath).exists_ties (by decide)
  have hjoins : (Select.compile .sqlite "orders" underscored .empty).joins =
      [⟨"a_b", "a_b", "orders", "orders"⟩, ⟨"a", "a", "orders", "orders"⟩] := by decide
  have htable : ∀ k ∈ (Select.compile .sqlite "orders" underscored .empty).joins,
      printed k.table ≠ printed "b" := by
    rw [hjoins]
    decide
  exact htable j hj ht.table

end RecordAccess.Sql
