import Mathlib.Data.List.Nodup
import Mathlib.Tactic.Common
import RecordAccess.Json.Basic
import RecordAccess.OrderedMap

/-!
# Canonical objects

The canonical form of an object whose keys are distinct has its members sorted by key
(`sortMembers_eq_byKey`), so that each is found under its key as before
(`member?_canonical_object`), but not in its place.
-/

namespace RecordAccess

namespace Entries
variable {α β : Type} {entries : List (String × α)}

/-- Entries sorted by key. -/
def byKey (entries : List (String × α)) : List (String × α) :=
  entries.mergeSort fun a b => decide (a.1 ≤ b.1)

/-- The keys come in strictly increasing order. -/
def Increasing (entries : List (String × α)) : Prop := entries.Pairwise fun a b => a.1 < b.1

/-- Sorting by key rearranges the entries. -/
lemma byKey_perm (entries : List (String × α)) : (byKey entries).Perm entries :=
  List.mergeSort_perm entries _

/-- Entries with distinct keys are in strictly increasing order when they are sorted. -/
lemma increasing_byKey (h : (entries.map Prod.fst).Nodup) : Increasing (byKey entries) := by
  have hsorted : (byKey entries).Pairwise fun a b => a.1 ≤ b.1 := by
    have hpairwise : (byKey entries).Pairwise fun a b => decide (a.1 ≤ b.1) = true := by
      apply List.pairwise_mergeSort
      · intro a b c hab hbc
        exact decide_eq_true (String.le_trans (of_decide_eq_true hab) (of_decide_eq_true hbc))
      · intro a b
        simpa using String.le_total a.1 b.1
    exact hpairwise.imp of_decide_eq_true
  have hnodup : ((byKey entries).map Prod.fst).Nodup :=
    ((byKey_perm entries).map Prod.fst).nodup_iff.2 h
  refine hsorted.imp₂ ?_ (List.pairwise_map.1 hnodup)
  intro a b hle hne
  exact String.not_le.1 fun hge => hne (String.le_antisymm hle hge)

/-- Entries are in increasing order if their keys are. -/
lemma increasing_iff : Increasing entries ↔ (entries.map Prod.fst).Pairwise (· < ·) :=
  List.pairwise_map.symm

/-- There is one way to put entries in strictly increasing order. -/
lemma eq_of_increasing {entries' : List (String × α)} (hperm : entries.Perm entries')
    (h : Increasing entries) (h' : Increasing entries') : entries = entries' := by
  refine hperm.eq_of_pairwise ?_ h h'
  intro a b _ _ hab hba
  exact absurd (String.lt_trans hab hba) (String.lt_irrefl a.1)

/-- Sorting leaves exactly the entries that are in order already. -/
lemma byKey_eq_self_iff (h : (entries.map Prod.fst).Nodup) :
    byKey entries = entries ↔ Increasing entries := by
  constructor
  · intro heq
    rw [← heq]
    exact increasing_byKey h
  · exact eq_of_increasing (byKey_perm entries) (increasing_byKey h)

/-- Sorting leaves the value of every key. -/
lemma get?_byKey (h : (entries.map Prod.fst).Nodup) (key : String) :
    get? key (byKey entries) = get? key entries := by
  have hperm := byKey_perm entries
  have hdistinct : ((byKey entries).map Prod.fst).Nodup := (hperm.map Prod.fst).nodup_iff.2 h
  apply Option.ext
  intro value
  constructor
  · intro hget
    exact get?_of_mem h (hperm.mem_iff.1 (mem_of_get? hget))
  · intro hget
    exact get?_of_mem hdistinct (hperm.mem_iff.2 (mem_of_get? hget))

/-- To sort entries and to change their values are done in either order. -/
lemma map_byKey (f : String × α → String × β) (hf : ∀ e, (f e).1 = e.1)
    (entries : List (String × α)) : (byKey entries).map f = byKey (entries.map f) := by
  apply List.map_mergeSort
  intro a _ b _
  rw [hf, hf]

end Entries

namespace OrderedMap
variable {α : Type}

/-- The map with its keys in order. -/
def byKey (m : OrderedMap α) : OrderedMap α where
  entries := Entries.byKey m.entries
  distinct := (((Entries.byKey_perm m.entries).map Prod.fst).nodup_iff).2 m.distinct

/-- The map with its keys in order has the same value for every key. -/
@[simp] lemma get?_byKey (m : OrderedMap α) (key : String) : m.byKey.get? key = m.get? key :=
  Entries.get?_byKey m.distinct key

/-- A map is left as it is by sorting if and only if its keys are in order. -/
lemma byKey_eq_self_iff {m : OrderedMap α} : m.byKey = m ↔ Entries.Increasing m.entries := by
  constructor
  · intro h
    exact (Entries.byKey_eq_self_iff m.distinct).1 (congrArg entries h)
  · intro h
    exact ext ((Entries.byKey_eq_self_iff m.distinct).2 h)

/-- Maps with the same keys have them in order if one of them has. -/
lemma increasing_of_keys_eq {m n : OrderedMap α} (h : m.keys = n.keys)
    (hm : Entries.Increasing m.entries) : Entries.Increasing n.entries := by
  have hkeys : m.entries.map Prod.fst = n.entries.map Prod.fst := h
  rw [Entries.increasing_iff] at hm ⊢
  rwa [← hkeys]

/-- A map over the values leaves the map if and only if it leaves every value. -/
lemma mapEntries_eq_self_iff {m : OrderedMap α} {f : α → α} :
    (m.mapEntries fun _ v => f v) = m ↔ ∀ v ∈ m.values, f v = v := by
  have hentries : (m.mapEntries fun _ v => f v) = m ↔ ∀ e ∈ m.entries, (e.1, f e.2) = e := by
    rw [OrderedMap.ext_iff, mapEntries]
    constructor
    · intro h e he
      exact List.map_eq_map_iff.1 (h.trans (List.map_id _).symm) e he
    · intro h
      exact (List.map_eq_map_iff.2 h).trans (List.map_id _)
  rw [hentries]
  constructor
  · intro h v hv
    obtain ⟨e, he, rfl⟩ := List.mem_map.1 hv
    exact congrArg Prod.snd (h e he)
  · intro h e he
    exact Prod.ext rfl (h e.2 (List.mem_map.2 ⟨e, he, rfl⟩))

end OrderedMap

namespace Json
open Entries

/-- An inserted member is found under its key, and every other one as before. -/
lemma get?_insertMember (key name : String) (value : Json) (members : List (String × Json)) :
    get? name (insertMember key value members) =
      if name = key then some value else get? name members := by
  induction members with
  | nil => simp [insertMember, get?, eq_comm]
  | cons m rest ih =>
    obtain ⟨k, v⟩ := m
    unfold insertMember
    split
    · simp [get?, eq_comm]
    next hlt =>
      split
      next heq =>
        subst heq
        by_cases hname : name = key
        · simp [get?, hname]
        · have hname' : ¬ key = name := fun h => hname h.symm
          simp [get?, hname, hname']
      next hne =>
        by_cases hname : name = key
        · subst hname
          have hne' : ¬ k = name := fun h => hne h.symm
          simp [get?, hne', ih]
        · simp [get?, hname, ih]

/-- A member with a new key is added to the others. -/
lemma insertMember_perm {key : String} (value : Json) {members : List (String × Json)}
    (h : key ∉ members.map Prod.fst) :
    (insertMember key value members).Perm ((key, value) :: members) := by
  induction members with
  | nil => exact .refl _
  | cons m rest ih =>
    obtain ⟨k, v⟩ := m
    obtain ⟨hne, hrest⟩ : key ≠ k ∧ key ∉ rest.map Prod.fst := by simpa using h
    unfold insertMember
    split
    · exact .refl _
    · exact ((ih hrest).cons (k, v)).trans (.swap (key, value) (k, v) rest)

/-- What is in the members after an insertion was inserted or was there before. -/
lemma eq_or_mem_of_mem_insertMember {key : String} {value : Json} {members : List (String × Json)}
    {e : String × Json} (h : e ∈ insertMember key value members) :
    e = (key, value) ∨ e ∈ members := by
  induction members with
  | nil => exact .inl (List.mem_singleton.1 h)
  | cons m rest ih =>
    obtain ⟨k, v⟩ := m
    unfold insertMember at h
    split at h
    · exact List.mem_cons.1 h
    split at h
    · exact (List.mem_cons.1 h).imp_right (List.mem_cons_of_mem _)
    · cases List.mem_cons.1 h with
      | inl heq => exact .inr (heq ▸ List.mem_cons_self)
      | inr hmem => exact (ih hmem).imp_right (List.mem_cons_of_mem _)

/-- An insertion keeps the members in order. -/
lemma increasing_insertMember {key : String} {value : Json} {members : List (String × Json)}
    (h : Increasing members) : Increasing (insertMember key value members) := by
  induction members with
  | nil => exact List.pairwise_singleton _ _
  | cons m rest ih =>
    obtain ⟨k, v⟩ := m
    obtain ⟨hfirst, hrest⟩ := List.pairwise_cons.1 h
    unfold insertMember
    split
    next hlt =>
      refine List.pairwise_cons.2 ⟨?_, h⟩
      intro e he
      cases List.mem_cons.1 he with
      | inl heq => rwa [heq]
      | inr hmem => exact String.lt_trans hlt (hfirst e hmem)
    next hge =>
      split
      next heq =>
        subst heq
        exact List.pairwise_cons.2 ⟨hfirst, hrest⟩
      next hne =>
        refine List.pairwise_cons.2 ⟨?_, ih hrest⟩
        intro e he
        cases eq_or_mem_of_mem_insertMember he with
        | inl heq =>
          rw [heq]
          apply String.not_le.1
          intro hle
          exact hge (String.not_le.1 fun hle' => hne (String.le_antisymm hle hle'))
        | inr hmem => exact hfirst e hmem

/-- Of members with distinct keys each has the value under its key; other keys keep what they had. -/
lemma get?_foldl_insertMember {members : List (String × Json)}
    (h : (members.map Prod.fst).Nodup) (name : String) (sorted : List (String × Json)) :
    get? name (members.foldl (fun sorted (key, value) => insertMember key value sorted) sorted) =
      (get? name members).or (get? name sorted) := by
  induction members generalizing sorted with
  | nil => rfl
  | cons m rest ih =>
    obtain ⟨k, v⟩ := m
    obtain ⟨hk, hrest⟩ := List.nodup_cons.1 h
    rw [List.foldl_cons, ih hrest, get?_insertMember]
    by_cases hname : name = k
    · have hnone : get? name rest = none := by
        cases hget : get? name rest with
        | none => rfl
        | some value =>
          rw [hname] at hget
          exact absurd (List.mem_map.2 ⟨_, mem_of_get? hget, rfl⟩) hk
      simp [get?, hname, hname ▸ hnone]
    · have hname' : ¬ k = name := fun heq => hname heq.symm
      simp [get?, hname, hname']

/-- Members with distinct keys that are inserted one by one are added to those before. -/
lemma foldl_insertMember_perm {members sorted : List (String × Json)}
    (h : ((sorted ++ members).map Prod.fst).Nodup) :
    (members.foldl (fun sorted (key, value) => insertMember key value sorted) sorted).Perm
      (sorted ++ members) := by
  induction members generalizing sorted with
  | nil => simp
  | cons m rest ih =>
    obtain ⟨k, v⟩ := m
    have hk : k ∉ sorted.map Prod.fst := by
      intro hmem
      rw [List.map_append, List.nodup_append] at h
      exact h.2.2 k hmem k (List.mem_map.2 ⟨_, List.mem_cons_self, rfl⟩) rfl
    have hperm : (insertMember k v sorted ++ rest).Perm (sorted ++ (k, v) :: rest) :=
      ((insertMember_perm v hk).append_right rest).trans List.perm_middle.symm
    rw [List.foldl_cons]
    exact (ih ((hperm.map Prod.fst).nodup_iff.2 h)).trans hperm

/-- Members that are inserted one by one come in order. -/
lemma increasing_foldl_insertMember {members sorted : List (String × Json)}
    (h : Increasing sorted) :
    Increasing
      (members.foldl (fun sorted (key, value) => insertMember key value sorted) sorted) := by
  induction members generalizing sorted with
  | nil => exact h
  | cons m rest ih => exact ih (increasing_insertMember h)

/-- Members with distinct keys are sorted by key. -/
lemma sortMembers_eq_byKey {members : List (String × Json)} (h : (members.map Prod.fst).Nodup) :
    sortMembers members = byKey members := by
  have hperm : (sortMembers members).Perm members := foldl_insertMember_perm h
  have hincreasing : Increasing (sortMembers members) := increasing_foldl_insertMember .nil
  exact eq_of_increasing (hperm.trans (byKey_perm members).symm) hincreasing (increasing_byKey h)

/-- Canonical members have the same keys, each with its value in canonical form. -/
lemma canonicalMembers_eq (members : List (String × Json)) :
    canonicalMembers members = members.map fun (key, value) => (key, value.canonical) := by
  induction members with
  | nil => rfl
  | cons m rest ih =>
    obtain ⟨k, v⟩ := m
    rw [canonicalMembers, ih, List.map_cons]

/-- Canonical members have the same keys in the same order. -/
lemma keys_canonicalMembers (members : List (String × Json)) :
    (canonicalMembers members).map Prod.fst = members.map Prod.fst := by
  simp [canonicalMembers_eq, Function.comp_def]

/-- A member of an object is what is found under its key. -/
lemma member?_object (key : String) (members : List (String × Json)) :
    (object members).member? key = get? key members := by
  unfold member?
  induction members with
  | nil => rfl
  | cons m rest ih =>
    obtain ⟨k, v⟩ := m
    by_cases hk : k = key
    · simp [get?, hk]
    · simpa [get?, hk] using ih

/-- The members of a canonical object are sorted by key. -/
lemma canonical_object {members : List (String × Json)} (h : (members.map Prod.fst).Nodup) :
    (object members).canonical =
      object (byKey (members.map fun (key, value) => (key, value.canonical))) := by
  rw [canonical, sortMembers_eq_byKey ((keys_canonicalMembers members).symm ▸ h),
    canonicalMembers_eq]

/-- A member of a canonical object is found under its key. -/
lemma member?_canonical_object {members : List (String × Json)}
    (h : (members.map Prod.fst).Nodup) (key : String) :
    (object members).canonical.member? key = (get? key members).map canonical := by
  have hdistinct : ((canonicalMembers members).map Prod.fst).Nodup :=
    (keys_canonicalMembers members).symm ▸ h
  have hget : get? key (canonicalMembers members) = (get? key members).map canonical := by
    rw [canonicalMembers_eq]
    exact get?_map (fun _ value => value.canonical) key members
  rw [canonical, member?_object, sortMembers, get?_foldl_insertMember hdistinct, hget]
  exact Option.or_none

end Json
end RecordAccess
