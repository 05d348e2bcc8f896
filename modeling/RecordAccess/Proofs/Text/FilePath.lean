import Mathlib.Data.List.DropRight
import RecordAccess.Proofs.Text.Parts
import RecordAccess.Text.FilePath

/-!
# The components of paths

A path stands for a list of components: the root or the current directory in front, then parents and
names. Slashes that are repeated and dots between slashes are no components. Every path but the empty one
has a component (`components_eq_nil_iff`). The path without the current directory in front has the same
components otherwise (`components_withoutHere`).
-/

namespace RecordAccess.FilePath

/-- What a path goes through. -/
inductive Component where
  | root
  | here
  | parent
  | name (text : List Char)
  deriving DecidableEq

/-- The component in front of the others: the current directory if the first part is a dot, the root if the
first part is empty and a slash follows it. -/
def leading : List (List Char) → List Component
  | ['.'] :: _ => [.here]
  | [] :: _ :: _ => [.root]
  | _ => []

/-- What a part stands for that is neither empty nor a dot. -/
def Component.ofPart (part : List Char) : Component :=
  if part = ['.', '.'] then .parent else .name part

/-- The parents and names among the parts between slashes. -/
def named (parts : List (List Char)) : List Component :=
  (parts.filter fun part => part ≠ [] ∧ part ≠ ['.']).map .ofPart

/-- The components of a path. -/
def components (path : String) : List Component :=
  leading (path.toList.splitOn '/') ++ named (path.toList.splitOn '/')

/-- Components without the current directory in front. -/
def dropHere : List Component → List Component
  | .here :: rest => rest
  | components => components

variable {path : String} {cs : List Char} {part : List Char} {parts rest : List (List Char)}

/-- The idle parts of a path are the empty one and the dot. -/
lemma isIdle_iff : isIdle part = true ↔ part = [] ∨ part = ['.'] := by
  simp [isIdle]

/-- Parts are put together with slashes between them. -/
lemma join_eq (parts : List (List Char)) : join parts = ['/'].intercalate parts := by
  induction parts with
  | nil => rfl
  | cons part parts ih =>
    cases parts with
    | nil => simp [join]
    | cons next parts =>
      have hcons : join (part :: next :: parts) = part ++ '/' :: join (next :: parts) := rfl
      rw [hcons, ih, List.intercalate_cons_cons, List.append_assoc, List.singleton_append]

/-- An idle part in front adds no name. -/
lemma named_cons_of_isIdle (h : isIdle part = true) : named (part :: parts) = named parts := by
  obtain rfl | rfl := isIdle_iff.1 h <;> rfl

/-- The names among the parts backwards are those names backwards. -/
lemma named_reverse (parts : List (List Char)) : named parts.reverse = (named parts).reverse := by
  rw [named, named, List.filter_reverse, List.map_reverse]

/-- Idle parts that are dropped in front have no names. -/
lemma named_dropWhile (parts : List (List Char)) : named (parts.dropWhile isIdle) = named parts := by
  induction parts with
  | nil => rfl
  | cons part parts ih =>
    rw [List.dropWhile_cons]
    split
    next h => rw [ih, named_cons_of_isIdle h]
    next h => rfl

/-- What is stripped off is no component. -/
lemma named_strip (parts : List (List Char)) : named (strip parts) = named parts := by
  rw [strip, named_reverse, named_dropWhile, named_reverse, List.reverse_reverse, named_dropWhile]

/-- Stripped parts begin with a component. -/
lemma isIdle_of_strip (h : strip parts = part :: rest) : isIdle part = false := by
  have hprefix : part :: rest <+: parts.dropWhile isIdle :=
    h ▸ List.rdropWhile_prefix isIdle (parts.dropWhile isIdle)
  obtain ⟨after, hafter⟩ := hprefix
  have hhead := List.head?_dropWhile_not isIdle parts
  rwa [← hafter] at hhead

/-- The parts that are left were there before. -/
lemma mem_of_mem_strip (h : part ∈ strip parts) : part ∈ parts := by
  rw [strip, List.mem_reverse] at h
  exact List.dropWhile_subset _ (List.mem_reverse.1 (List.dropWhile_subset _ h))

/-- Nothing leads a path whose first part names something. -/
lemma leading_of_not_isIdle (h : isIdle part = false) : leading (part :: rest) = [] := by
  rw [Bool.eq_false_iff, ne_eq, isIdle_iff, not_or] at h
  unfold leading
  split
  next heq =>
    cases heq
    exact absurd rfl h.2
  next heq =>
    cases heq
    exact absurd rfl h.1
  next => rfl

/-- A path starts in the current directory if its first part is a dot. -/
lemma startsHere_iff : startsHere cs = true ↔ ∃ rest, cs.splitOn '/' = ['.'] :: rest := by
  constructor
  · intro h
    unfold startsHere at h
    split at h
    next => exact ⟨[], rfl⟩
    next rest => exact ⟨rest.splitOn '/', by simp [List.splitOn_cons_eq_if_modifyHead]⟩
    next => cases h
  · rintro ⟨rest, hrest⟩
    -- the parts put together again are the path, which shows what it begins with
    have hcs : ['/'].intercalate (cs.splitOn '/') = cs := List.intercalate_splitOn '/'
    rw [hrest] at hcs
    cases rest with
    | nil =>
      obtain rfl : ['.'] = cs := by simpa using hcs
      rfl
    | cons next rest =>
      obtain rfl : '.' :: '/' :: ['/'].intercalate (next :: rest) = cs := by
        rw [← hcs, List.intercalate_cons_cons]
        rfl
      rfl

/-- Behind the dot in front, the parts of a path follow a slash. -/
lemma splitOn_drop_of_here (h : cs.splitOn '/' = ['.'] :: rest) :
    (cs.drop 1).splitOn '/' = [] :: rest := by
  cases cs with
  | nil => cases h
  | cons c cs =>
    rw [List.splitOn_cons_eq_if_modifyHead] at h
    split at h
    · cases h
    · obtain ⟨first, parts, hparts⟩ := List.exists_cons_of_ne_nil (List.splitOn_ne_nil '/' cs)
      rw [hparts] at h
      obtain ⟨hfirst, rfl⟩ := List.cons.inj h
      obtain ⟨-, rfl⟩ := List.cons.inj hfirst
      exact hparts

/-- Stripped parts that are put together are the components of the path. -/
lemma components_join_strip (hslash : ∀ part ∈ parts, '/' ∉ part) :
    components (String.ofList (join (strip parts))) = named parts := by
  rw [components, String.toList_ofList, join_eq, ← named_strip parts]
  -- no part at all is put together to the same path as one empty part, so it is a case of its own
  cases hstrip : strip parts with
  | nil => rfl
  | cons part rest =>
    have hsplit : (['/'].intercalate (part :: rest)).splitOn '/' = part :: rest := by
      refine List.splitOn_intercalate '/' ?_ (List.cons_ne_nil part rest)
      intro part' hmem
      exact hslash part' (mem_of_mem_strip (hstrip ▸ hmem))
    rw [hsplit, leading_of_not_isIdle (isIdle_of_strip hstrip), List.nil_append]

/-- A path that begins with a dot goes through the names behind it, but for the current directory. -/
lemma dropHere_components_of_here (h : path.toList.splitOn '/' = ['.'] :: rest) :
    dropHere (components path) = named rest := by
  rw [components, h]
  rfl

/-- The current directory is not among the names. -/
lemma named_ne_here (parts : List (List Char)) (more : List Component) :
    named parts ≠ .here :: more := by
  intro h
  have hmem : Component.here ∈ named parts := h ▸ List.mem_cons_self
  obtain ⟨part, -, hpart⟩ := List.mem_map.1 hmem
  unfold Component.ofPart at hpart
  split at hpart <;> cases hpart

/-- Where no dot is in front, the current directory is no component. -/
lemma dropHere_components_of_not_here (h : ∀ rest, path.toList.splitOn '/' ≠ ['.'] :: rest) :
    dropHere (components path) = components path := by
  have hne (more : List Component) : components path ≠ .here :: more := by
    rw [components]
    unfold leading
    split
    next rest heq => exact absurd heq (h rest)
    next => simp
    next => exact named_ne_here _ more
  unfold dropHere
  split
  next more heq => exact absurd heq (hne more)
  next => rfl

/-- The path without the current directory in front has the other components. -/
lemma components_withoutHere (path : String) :
    components (withoutHere path) = dropHere (components path) := by
  simp only [withoutHere]
  split
  next hhere =>
    obtain ⟨rest, hrest⟩ := startsHere_iff.1 hhere
    have hdrop := splitOn_drop_of_here hrest
    rw [splitAt_eq, components_join_strip fun _ => not_mem_of_mem_splitOn, hdrop,
      dropHere_components_of_here hrest]
    rfl
  next hhere =>
    refine (dropHere_components_of_not_here fun rest hrest => ?_).symm
    exact hhere (startsHere_iff.2 ⟨rest, hrest⟩)

/-- Nothing remains without the current directory if there was at most that. -/
lemma dropHere_eq_nil_iff {components : List Component} :
    dropHere components = [] ↔ components = [] ∨ components = [.here] := by
  unfold dropHere
  split
  next rest => simp
  next hhere =>
    have hne : components ≠ [.here] := hhere []
    simp [hne]

/-- The empty path alone has no components. -/
lemma components_eq_nil_iff : components path = [] ↔ path = "" := by
  constructor
  · intro h
    obtain ⟨hleading, hnamed⟩ := List.append_eq_nil_iff.1 h
    obtain ⟨part, rest, hparts⟩ := List.exists_cons_of_ne_nil
      (List.splitOn_ne_nil '/' path.toList)
    rw [hparts] at hleading hnamed
    have hidle : part = [] ∨ part = ['.'] := by
      by_contra hpart
      simp [named, not_or.1 hpart] at hnamed
    obtain rfl | rfl := hidle
    · cases rest with
      | nil =>
        have hpath : ['/'].intercalate (path.toList.splitOn '/') = path.toList :=
          List.intercalate_splitOn '/'
        rw [hparts] at hpath
        exact String.toList_eq_nil_iff.1 hpath.symm
      | cons next rest => cases hleading
    · cases hleading
  · rintro rfl
    rfl

end RecordAccess.FilePath
