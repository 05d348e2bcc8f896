import Mathlib.Data.List.Infix
import Mathlib.Tactic.Common
import RecordAccess.Select

/-!
# The joins of a query

A chain of tables needs a join for each of its non-empty prefixes (`ofChain_eq`), the one that joins
the prefix's last table to the table before it (`Join.ofPrefix`). Over all paths of a query the joins
are those of the prefixes in the order in which they are met, and a name that is joined already is not
joined again: no name occurs twice (`nodup_ofPaths`), every join is that of a prefix
(`mem_ofPaths`), and the name of every prefix is joined (`exists_mem_ofPaths`).
-/

namespace RecordAccess

/-- The table that a chain leads to; the base table if the chain is empty. -/
def lastTable (base : String) (chain : List String) : String := chain.getLast?.getD base

/-- The name of the table that a chain leads to; the base table has its own. -/
def qualifier (base : String) (chain : List String) : String :=
  if chain = [] then base else FieldPath.chainName chain

/-- The non-empty prefixes of the chains of some paths, in the order in which they are met. -/
def prefixes (paths : List FieldPath) : List (List String) :=
  paths.flatMap fun path => path.chain.inits.tail

namespace Join

/-- The join of the last table of a chain to the table before it. -/
def ofPrefix (base : String) (chain : List String) : Join where
  name := qualifier base chain
  table := lastTable base chain
  parentTable := lastTable base chain.dropLast
  parentName := qualifier base chain.dropLast

end Join

/-- The empty chain leads to the base table. -/
@[simp] lemma lastTable_nil (base : String) : lastTable base [] = base := rfl

/-- A chain leads to its last table. -/
@[simp] lemma lastTable_concat (base : String) (chain : List String) (table : String) :
    lastTable base (chain ++ [table]) = table := by
  simp [lastTable]

/-- The base table goes by its own name. -/
@[simp] lemma qualifier_nil (base : String) : qualifier base [] = base := rfl

/-- The table that a chain leads to goes by the name of the chain. -/
lemma qualifier_of_ne_nil {base : String} {chain : List String} (h : chain ≠ []) :
    qualifier base chain = FieldPath.chainName chain := if_neg h

/-- The owner of a path's column is what its chain leads to. -/
lemma owner_ofPath (base : String) (path : FieldPath) :
    (ColumnName.ofPath base path).owner = qualifier base path.chain := by
  cases h : path.chain <;>
    simp [ColumnName.ofPath, FieldPath.joinName?, FieldPath.isJoined, qualifier, h]

/-- Texts that are joined with one more have it at the end, behind a separator. -/
lemma joinTexts_concat (sep : String) {texts : List String} (h : texts ≠ []) (text : String) :
    joinTexts sep (texts ++ [text]) = joinTexts sep texts ++ sep ++ text := by
  induction texts with
  | nil => exact absurd rfl h
  | cons first rest ih =>
    cases rest with
    | nil => rfl
    | cons second rest =>
      have ih := ih (by simp)
      simp only [List.cons_append, joinTexts] at ih ⊢
      rw [ih]
      simp [String.append_assoc]

/-- A chain's name is that of the tables before the last one, an underscore and the last table. -/
lemma qualifier_concat (base : String) {chain : List String} (h : chain ≠ []) (table : String) :
    qualifier base (chain ++ [table]) = qualifier base chain ++ "_" ++ table := by
  rw [qualifier_of_ne_nil h, qualifier_of_ne_nil (by simp)]
  exact joinTexts_concat "_" h table

/-- A prefix is a chain that a path starts with. -/
lemma mem_prefixes {paths : List FieldPath} {chain : List String} :
    chain ∈ prefixes paths ↔ chain ≠ [] ∧ ∃ path ∈ paths, chain <+: path.chain := by
  have hinits (c : List String) : chain ∈ c.inits.tail ↔ chain ≠ [] ∧ chain <+: c := by
    cases c with
    | nil =>
      simp only [List.inits, List.tail_cons, List.not_mem_nil, List.prefix_nil, false_iff]
      exact fun h => h.1 h.2
    | cons t c =>
      rw [← List.mem_inits, List.inits_cons]
      cases chain <;> simp
  simp only [prefixes, List.mem_flatMap, hinits]
  exact ⟨fun ⟨path, hp, hne, hc⟩ => ⟨hne, path, hp, hc⟩, fun ⟨hne, path, hp, hc⟩ => ⟨path, hp, hne, hc⟩⟩

/-- What comes before the last table of a prefix is a prefix, unless it is empty. -/
lemma mem_prefixes_of_concat {paths : List FieldPath} {chain : List String} {table : String}
    (h : chain ++ [table] ∈ prefixes paths) (hne : chain ≠ []) : chain ∈ prefixes paths := by
  obtain ⟨-, path, hp, hc⟩ := mem_prefixes.1 h
  exact mem_prefixes.2 ⟨hne, path, hp, (List.prefix_append chain [table]).trans hc⟩

namespace Join

/-- The joins along a chain, after the tables before it. -/
lemma along_eq (base : String) (before rest : List String) :
    along (lastTable base before) (qualifier base before) before rest =
      rest.inits.tail.map fun chain => ofPrefix base (before ++ chain) := by
  induction rest generalizing before with
  | nil => rfl
  | cons table rest ih =>
    -- the head of the chain is one of the tables before from here on
    have ih := ih (before ++ [table])
    rw [lastTable_concat, qualifier_of_ne_nil (by simp)] at ih
    obtain ⟨more, hmore⟩ : ∃ more, rest.inits = [] :: more := by cases rest <;> simp
    have hhead : ofPrefix base (before ++ [table]) =
        ⟨FieldPath.chainName (before ++ [table]), table, lastTable base before,
          qualifier base before⟩ := by
      simp [ofPrefix, qualifier_of_ne_nil]
    rw [along, ih, List.inits_cons, List.tail_cons, hmore]
    simp [hhead, Function.comp_def]

/-- A chain needs a join for each of its prefixes. -/
theorem ofChain_eq (base : String) (chain : List String) :
    ofChain base chain = chain.inits.tail.map (ofPrefix base) := by
  simpa [ofChain] using along_eq base [] chain

/-- The joins of some paths, before those of a name joined already are left out. -/
lemma flatMap_ofChain (base : String) (paths : List FieldPath) :
    (paths.flatMap fun path => ofChain base path.chain) = (prefixes paths).map (ofPrefix base) := by
  simp [prefixes, ofChain_eq, List.map_flatMap]

/-- A join is not lost when one more is added. -/
lemma mem_addTo_of_mem {joins : List Join} {j k : Join} (h : k ∈ joins) : k ∈ addTo joins j := by
  unfold addTo
  split
  · exact h
  · simp [h]

/-- A join that is there afterwards was there before or was added. -/
lemma mem_of_mem_addTo {joins : List Join} {j k : Join} (h : k ∈ addTo joins j) :
    k ∈ joins ∨ k = j := by
  unfold addTo at h
  split at h
  · exact .inl h
  · simpa using h

/-- After a join is added there is one of its name. -/
lemma exists_mem_addTo (joins : List Join) (j : Join) : ∃ k ∈ addTo joins j, k.name = j.name := by
  unfold addTo
  split
  · next h =>
    obtain ⟨k, hk, hname⟩ := List.any_eq_true.1 h
    exact ⟨k, hk, by simpa using hname⟩
  · exact ⟨j, by simp, rfl⟩

/-- A join is added at most once by name. -/
lemma nodup_addTo {joins : List Join} (j : Join) (h : (joins.map Join.name).Nodup) :
    ((addTo joins j).map Join.name).Nodup := by
  unfold addTo
  split
  · exact h
  · next hnew =>
    have hnew : ∀ k ∈ joins, k.name ≠ j.name := by
      intro k hk hname
      exact hnew (List.any_eq_true.2 ⟨k, hk, by simp [hname]⟩)
    rw [List.map_append, List.nodup_append]
    refine ⟨h, by simp, ?_⟩
    intro a ha b hb
    obtain ⟨k, hk, rfl⟩ := List.mem_map.1 ha
    obtain rfl : b = j.name := by simpa using hb
    exact hnew k hk

/-- Joins that are added one after another are each there once by name. -/
lemma nodup_foldl_addTo {acc : List Join} (js : List Join) (h : (acc.map Join.name).Nodup) :
    ((js.foldl addTo acc).map Join.name).Nodup := by
  induction js generalizing acc with
  | nil => exact h
  | cons j js ih => exact ih (nodup_addTo j h)

/-- A join is not lost when more are added one after another. -/
lemma mem_foldl_addTo_of_mem {acc : List Join} (js : List Join) {j : Join} (h : j ∈ acc) :
    j ∈ js.foldl addTo acc := by
  induction js generalizing acc with
  | nil => exact h
  | cons k js ih => exact ih (mem_addTo_of_mem h)

/-- Joins that are there afterwards were there before or are among those added. -/
lemma mem_of_mem_foldl_addTo {acc js : List Join} {j : Join} (h : j ∈ js.foldl addTo acc) :
    j ∈ acc ∨ j ∈ js := by
  induction js generalizing acc with
  | nil => exact .inl h
  | cons k js ih =>
    rcases ih h with hmem | hmem
    · rcases mem_of_mem_addTo hmem with hacc | rfl
      · exact .inl hacc
      · exact .inr List.mem_cons_self
    · exact .inr (List.mem_cons_of_mem _ hmem)

/-- The names of all joins added are there afterwards. -/
lemma exists_mem_foldl_addTo {acc js : List Join} {j : Join} (h : j ∈ js) :
    ∃ k ∈ js.foldl addTo acc, k.name = j.name := by
  induction js generalizing acc with
  | nil => cases h
  | cons i js ih =>
    rcases List.mem_cons.1 h with rfl | hmem
    · obtain ⟨k, hk, hname⟩ := exists_mem_addTo acc j
      exact ⟨k, mem_foldl_addTo_of_mem js hk, hname⟩
    · exact ih hmem

section Paths
variable (base : String) (paths : List FieldPath)

/-- The joins of some paths come from adding those of the prefixes one by one. -/
lemma ofPaths_eq : ofPaths base paths = ((prefixes paths).map (ofPrefix base)).foldl addTo [] := by
  rw [ofPaths, flatMap_ofChain]

/-- Names are joined once. -/
theorem nodup_ofPaths : ((ofPaths base paths).map Join.name).Nodup := by
  rw [ofPaths_eq]
  exact nodup_foldl_addTo _ .nil

/-- Only prefixes are joined. -/
theorem mem_ofPaths {j : Join} (hj : j ∈ ofPaths base paths) :
    ∃ chain ∈ prefixes paths, j = ofPrefix base chain := by
  rw [ofPaths_eq] at hj
  rcases mem_of_mem_foldl_addTo hj with hnil | hmem
  · cases hnil
  · obtain ⟨chain, hchain, rfl⟩ := List.mem_map.1 hmem
    exact ⟨chain, hchain, rfl⟩

/-- The name of every prefix is joined. -/
theorem exists_mem_ofPaths {chain : List String} (hchain : chain ∈ prefixes paths) :
    ∃ j ∈ ofPaths base paths, j.name = qualifier base chain := by
  rw [ofPaths_eq]
  exact exists_mem_foldl_addTo (List.mem_map_of_mem hchain)

end Paths

end Join

end RecordAccess
