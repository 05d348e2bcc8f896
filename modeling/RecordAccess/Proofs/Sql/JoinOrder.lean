import Mathlib.Data.List.Infix
import Mathlib.Tactic.Common
import RecordAccess.Proofs.Sql.Joins
import RecordAccess.Proofs.Sql.Statement

/-!
# The order of the joins

The joins of a query have the names of the prefixes of its paths, in the order in which the prefixes
are first met (`map_name_ofPaths`). A prefix is met after those before it, so that each join comes
after the one that it is tied to (`Sequenced`); leaving out a name that is joined already keeps this
(`Sequenced.foldl_addTo`).

What a clause mentions is read off its text: the names that stand before a dot (`owners?`). The
headline `suppliedInOrder_compile` says of all clauses of a compiled query that these names are
introduced before them.
-/

namespace RecordAccess

/-- An item that is there already changes nothing at the end. -/
lemma eraseDups_concat (names : List String) (name : String) :
    (names ++ [name]).eraseDups =
      if name ∈ names then names.eraseDups else names.eraseDups ++ [name] := by
  rw [List.eraseDups_append, List.removeAll]
  by_cases h : name ∈ names <;> simp [h, List.eraseDups_cons]

/-- The prefixes of a longer chain are those of the chain, and the longer chain itself. -/
lemma inits_concat_tail (chain : List String) (table : String) :
    (chain ++ [table]).inits.tail = chain.inits.tail ++ [chain ++ [table]] := by
  cases chain <;> simp

namespace Join

/-- A join is added to the names if there is none of its name yet. -/
lemma map_name_addTo (joins : List Join) (j : Join) :
    (addTo joins j).map name =
      if j.name ∈ joins.map name then joins.map name else joins.map name ++ [j.name] := by
  have hany : (joins.any fun k => k.name == j.name) = true ↔ j.name ∈ joins.map name := by
    simp
  unfold addTo
  by_cases h : j.name ∈ joins.map name
  · rw [if_pos h, if_pos (hany.2 h)]
  · rw [if_neg h, if_neg (mt hany.1 h), List.map_append, List.map_singleton]

/-- Adding joins one by one keeps the first occurrence of each name. -/
lemma map_name_foldl_addTo (js : List Join) :
    (js.foldl addTo []).map name = (js.map name).eraseDups := by
  induction js using List.reverseRecOn with
  | nil => rfl
  | append_singleton js j ih =>
    have hmem : j.name ∈ (js.map name).eraseDups ↔ j.name ∈ js.map name := List.mem_eraseDups
    rw [List.foldl_append, List.foldl_cons, List.foldl_nil, map_name_addTo, ih, List.map_append,
      List.map_singleton, eraseDups_concat]
    simp only [hmem]

/-- The names joined are those of all prefixes, in the order in which they are first met. -/
lemma map_name_ofPaths (base : String) (paths : List FieldPath) :
    (ofPaths base paths).map name = ((prefixes paths).map FieldPath.chainName).eraseDups := by
  have hnames : ((prefixes paths).map (ofPrefix base)).map name =
      (prefixes paths).map FieldPath.chainName := by
    rw [List.map_map]
    apply List.map_congr_left
    intro chain hchain
    exact qualifier_of_ne_nil (mem_prefixes.1 hchain).1
  rw [ofPaths_eq, map_name_foldl_addTo, hnames]

/-- Each join is tied to the base table or to one before it. -/
inductive Sequenced (base : String) : List Join → Prop where
  | nil : Sequenced base []
  | concat {joins j} :
    Sequenced base joins →
    j.parentName ∈ base :: joins.map name →
    Sequenced base (joins ++ [j])

/-- Two sequences of joins to the same base follow one on the other. -/
lemma Sequenced.append {base : String} {joins more : List Join} (h : Sequenced base joins)
    (hmore : Sequenced base more) : Sequenced base (joins ++ more) := by
  induction hmore with
  | nil => rwa [List.append_nil]
  | @concat more j _ hj ih =>
    rw [← List.append_assoc]
    refine ih.concat ?_
    rw [List.map_append]
    rcases List.mem_cons.1 hj with hbase | hmem
    · exact hbase ▸ List.mem_cons_self
    · exact List.mem_cons_of_mem _ (List.mem_append_right _ hmem)

/-- The joins of a chain are tied one to another from the base table outwards. -/
lemma sequenced_ofChain (base : String) (chain : List String) :
    Sequenced base (ofChain base chain) := by
  induction chain using List.reverseRecOn with
  | nil => exact .nil
  | append_singleton chain table ih =>
    rw [ofChain_eq] at ih ⊢
    rw [inits_concat_tail, List.map_append, List.map_singleton]
    refine ih.concat ?_
    have hparent : (ofPrefix base (chain ++ [table])).parentName = qualifier base chain := by
      rw [ofPrefix, List.dropLast_concat]
    rw [hparent, List.map_map]
    obtain rfl | ⟨before, last, hchain⟩ := List.eq_nil_or_concat chain
    · exact List.mem_cons_self
    · rw [List.concat_eq_append] at hchain
      subst hchain
      -- the chain is the last of its own prefixes
      rw [inits_concat_tail]
      exact List.mem_cons_of_mem _ (by simp [ofPrefix])

/-- A join that is left out has its name among those before it. -/
lemma Sequenced.foldl_addTo {base : String} {js : List Join} (h : Sequenced base js) :
    Sequenced base (js.foldl addTo []) := by
  induction h with
  | nil => exact .nil
  | @concat js j _ hj ih =>
    rw [List.foldl_append, List.foldl_cons, List.foldl_nil]
    unfold addTo
    split
    · exact ih
    · refine ih.concat ?_
      rw [map_name_foldl_addTo]
      rcases List.mem_cons.1 hj with hbase | hmem
      · exact hbase ▸ List.mem_cons_self
      · exact List.mem_cons_of_mem _ (List.mem_eraseDups.2 hmem)

/-- The joins of some paths are each tied to one before. -/
lemma sequenced_ofPaths (base : String) (paths : List FieldPath) :
    Sequenced base (ofPaths base paths) := by
  refine Sequenced.foldl_addTo ?_
  induction paths with
  | nil => exact .nil
  | cons path paths ih =>
    rw [List.flatMap_cons]
    exact (sequenced_ofChain base path.chain).append ih

/-- A join among others is tied to the base table or to one that stands before it there. -/
lemma Sequenced.parent_mem {base : String} {joins before after : List Join} {j : Join}
    (h : Sequenced base joins) (hj : joins = before ++ j :: after) :
    j.parentName ∈ base :: before.map name := by
  induction h generalizing after with
  | nil => exact absurd hj (by simp)
  | @concat joins k _ hk ih =>
    obtain rfl | ⟨more, last, rfl⟩ := List.eq_nil_or_concat after
    · obtain ⟨rfl, heq⟩ := List.append_inj' hj rfl
      obtain rfl : k = j := by simpa using heq
      exact hk
    · rw [List.concat_eq_append, ← List.cons_append, ← List.append_assoc] at hj
      exact ih (List.append_inj' hj rfl).1

end Join

namespace Sql

/-- The names that stand before a dot. -/
def owners : List Token → List String
  | .name owner :: .mark mark :: rest =>
    if mark = "." then owner :: owners rest else owners rest
  | _ :: rest => owners rest
  | [] => []

/-- The names of tables that a text mentions, as they are printed there. -/
def owners? (b : Backend) (text : String) : Option (List String) := (tokens b text).map owners

/-- A qualified column mentions its owner and no other table. -/
lemma owners_columnTokens (owner column : String) {rest : List Token}
    (h : rest.head? ≠ some (.mark ".")) :
    owners (columnTokens owner column ++ rest) = printed owner :: owners rest := by
  have hcolumn : owners (.ofName column :: rest) = owners rest := by
    cases rest with
    | nil => rfl
    | cons token rest =>
      cases token with
      | mark mark =>
        have hmark : mark ≠ "." := by
          rintro rfl
          exact h rfl
        simp [Token.ofName, owners, hmark]
      | _ => rfl
  simpa [columnTokens, Token.ofName, owners] using hcolumn

/-- A join mentions its own name and the one that it is tied to. -/
lemma owners?_join (b : Backend) (j : Join) :
    owners? b (j.sql b) = some [printed j.name, printed j.parentName] := by
  have hown : owners (joinTokens j) =
      owners (columnTokens j.name (j.parentTable ++ "_id") ++
        .mark "=" :: columnTokens j.parentName "id") := rfl
  have hparent : owners (columnTokens j.parentName "id" ++ []) = [printed j.parentName] :=
    owners_columnTokens j.parentName "id" (by simp)
  rw [owners?, tokens_join, Option.map_some, hown, owners_columnTokens _ _ (by simp)]
  exact congrArg (fun parent => some (printed j.name :: parent)) hparent

/-- A column is all that is mentioned where no column comes after it. -/
lemma owners?_column {b : Backend} {sep text : String} {ks ts : List Token} (c : ColumnName)
    (hsep : Separates b sep ks) (htext : tokens b text = some ts)
    (hdot : (ks ++ ts).head? ≠ some (.mark ".")) (hnone : owners (ks ++ ts) = []) :
    owners? b (c.sql b ++ sep ++ text) = some [printed c.owner] := by
  rw [owners?, hsep.parted (tokens_columnName b c) htext, Option.map_some, List.append_assoc,
    owners_columnTokens _ _ hdot, hnone]

/-- A condition mentions the table of its column. -/
lemma owners?_condition (b : Backend) (c : Condition) :
    owners? b (c.sql b) = some [printed c.column.owner] := by
  obtain ⟨column, test⟩ := c
  cases test with
  | null comparator =>
    refine owners?_column column (separates_blank b) (tokens_nullTest b comparator) ?_ ?_ <;>
      cases comparator <;> simp [nullTokens, owners]
  | compare comparator text =>
    have htext := owners?_column column (separates_comparator b comparator)
      (tokens_quoteLiteral b text) (by cases comparator <;> simp [comparisonMark])
      (by simp [owners, Token.ofText])
    simpa [Condition.sql, String.append_assoc] using htext

/-- An item of the order mentions the table of its column. -/
lemma owners?_orderItem (b : Backend) (item : OrderItem) :
    owners? b (item.sql b) = some [printed item.column.owner] := by
  have hdirection : tokens b item.direction.sql = some [.word (directionWord item.direction)] := by
    cases b <;> cases item.direction <;> rfl
  exact owners?_column item.column (separates_blank b) hdirection (by simp) (by simp [owners])

/-- The names of a query's tables are those of the prefixes of some paths, each is introduced before a
clause mentions it, and rows are merged for the count where a path joins a table. -/
structure SuppliedInOrder (b : Backend) (s : Select) (paths : List FieldPath) : Prop where
  /-- The names joined are those of all prefixes, each where it is first met. -/
  names : s.joins.map Join.name =
    ((paths.flatMap fun path => path.chain.inits.tail).map FieldPath.chainName).eraseDups
  once : (s.joins.map Join.name).Nodup
  /-- A join mentions its own name and that of the base table or of a join before it. -/
  joins : ∀ before j after, s.joins = before ++ j :: after →
    ∃ parent ∈ s.table :: before.map Join.name,
      owners? b (j.sql b) = some [printed j.name, printed parent]
  conditions : ∀ c ∈ s.conditions, ∃ owner ∈ s.table :: s.joins.map Join.name,
    owners? b (c.sql b) = some [printed owner]
  /-- The order is that of the sorts and then by identity. -/
  order : ∀ item ∈ s.order ++ [⟨s.idColumn, .asc⟩], ∃ owner ∈ s.table :: s.joins.map Join.name,
    owners? b (item.sql b) = some [printed owner]
  count : ∃ ts, tokens b s.countSql = some ts ∧
    ([.word "SELECT", .word "COUNT", .mark "(", .word "DISTINCT"] <+: ts ↔
      ∃ path ∈ paths, path.chain ≠ [])

/-- The owner of a path's column is the base table or has been joined for the path. -/
lemma owner_mem {base : String} {paths : List FieldPath} {path : FieldPath} (h : path ∈ paths) :
    (ColumnName.ofPath base path).owner ∈ base :: (Join.ofPaths base paths).map Join.name := by
  rw [owner_ofPath]
  by_cases hne : path.chain = []
  · rw [hne]
    exact List.mem_cons_self
  · obtain ⟨j, hj, hname⟩ := Join.exists_mem_ofPaths base paths
      (mem_prefixes.2 ⟨hne, path, h, List.prefix_rfl⟩)
    exact hname ▸ List.mem_cons_of_mem _ (List.mem_map_of_mem hj)

/-- Tables are joined if and only if a path joins any. -/
lemma ofPaths_ne_nil_iff (base : String) (paths : List FieldPath) :
    Join.ofPaths base paths ≠ [] ↔ ∃ path ∈ paths, path.chain ≠ [] := by
  constructor
  · intro hne
    obtain ⟨j, hj⟩ := List.exists_mem_of_ne_nil _ hne
    obtain ⟨chain, hchain, -⟩ := Join.mem_ofPaths base paths hj
    obtain ⟨hne, path, hpath, hprefix⟩ := mem_prefixes.1 hchain
    refine ⟨path, hpath, ?_⟩
    intro hnil
    rw [hnil] at hprefix
    exact hne (List.prefix_nil.1 hprefix)
  · intro ⟨path, hpath, hne⟩ hnil
    obtain ⟨j, hj, -⟩ := Join.exists_mem_ofPaths base paths
      (mem_prefixes.2 ⟨hne, path, hpath, List.prefix_rfl⟩)
    rw [hnil] at hj
    cases hj

/-- The count merges rows if and only if tables are joined. -/
lemma distinct_prefix_iff (base : String) (joins : List Join) (source : List Token) :
    [.word "SELECT", .word "COUNT", .mark "(", .word "DISTINCT"] <+:
      countTokens base joins ++ source ↔ joins ≠ [] := by
  cases joins <;> simp [countTokens, distinctTokens, columnTokens, Token.ofName]

/-- All names that the clauses of a compiled query mention are introduced before them, and no others
are introduced. -/
theorem suppliedInOrder_compile (b : Backend) (table : String) (filters : Filters) (sorts : Sorts) :
    SuppliedInOrder b (.compile b table filters sorts)
      ((filters.keys.map fun key => .ofText (Comparator.split key).2)
        ++ sorts.keys.map .ofText) where
  names := Join.map_name_ofPaths _ _
  once := Join.nodup_ofPaths _ _
  joins := by
    intro before j after hj
    exact ⟨j.parentName, (Join.sequenced_ofPaths _ _).parent_mem hj, owners?_join b j⟩
  conditions := by
    intro c hc
    obtain ⟨⟨key, value⟩, hentry, rfl⟩ := List.mem_map.1 hc
    have hpath : FieldPath.ofText (Comparator.split key).2 ∈ Select.paths filters sorts :=
      List.mem_append_left _ (List.mem_map_of_mem (List.mem_map_of_mem hentry))
    exact ⟨_, owner_mem hpath, owners?_condition b _⟩
  order := by
    intro item hitem
    rcases List.mem_append.1 hitem with hsort | hid
    · obtain ⟨⟨key, direction⟩, hentry, rfl⟩ := List.mem_map.1 hsort
      have hpath : FieldPath.ofText key ∈ Select.paths filters sorts :=
        List.mem_append_right _ (List.mem_map_of_mem (List.mem_map_of_mem hentry))
      exact ⟨_, owner_mem hpath, owners?_orderItem b _⟩
    · obtain rfl := List.mem_singleton.1 hid
      exact ⟨_, List.mem_cons_self, owners?_orderItem b _⟩
  count := by
    refine ⟨_, tokens_countSql (s := .compile b table filters sorts)
      (tokens_fromClause b table filters sorts), ?_⟩
    rw [distinct_prefix_iff]
    exact ofPaths_ne_nil_iff _ _

/-- A sort goes on from a table that the filters have joined, and joins one of its own. -/
example :
    (Select.compile .sqlite "orders" (.ofList [("a.b.x", .int 1), ("a.y", .null)])
      (.ascending ["a.c.z"])).joins.map Join.name = ["a", "a_b", "a_c"] := by
  decide

end Sql
end RecordAccess
