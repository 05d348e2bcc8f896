/-!
# Ordered Maps

Maps from text to values that keep their keys in the order of insertion: the columns of a row, the
keys of a filter or sort specification, the columns of a schema. Replacing the value of a key leaves
the key in its place. Each key occurs once, as a field of the type says.
-/

namespace RecordAccess

namespace Entries

variable {α β : Type}

/-- The value of the first entry with a key. -/
def get? (key : String) : List (String × α) → Option α
  | [] => none
  | (k, v) :: rest => if k = key then some v else get? key rest

/-- The entries with the value of a key replaced in its place, or added at the end. -/
def put (key : String) (value : α) : List (String × α) → List (String × α)
  | [] => [(key, value)]
  | (k, v) :: rest => if k = key then (key, value) :: rest else (k, v) :: put key value rest

/-- The entries without those of a key. -/
def remove (key : String) (entries : List (String × α)) : List (String × α) :=
  entries.filter fun e => e.1 != key

/-- Putting a value keeps the keys, and adds a new key at the end. -/
theorem keys_put (key : String) (value : α) (entries : List (String × α)) :
    (put key value entries).map Prod.fst =
      if key ∈ entries.map Prod.fst then entries.map Prod.fst
      else entries.map Prod.fst ++ [key] := by
  induction entries with
  | nil => simp [put]
  | cons e rest ih =>
    obtain ⟨k, v⟩ := e
    by_cases h : k = key
    · simp [put, h]
    · have h' : ¬ key = k := fun e => h e.symm
      by_cases hm : key ∈ rest.map Prod.fst <;> simp_all [put]

/-- A key has the value that was put for it, and other keys those they had. -/
theorem get?_put (key k : String) (value : α) (entries : List (String × α)) :
    get? k (put key value entries) = if k = key then some value else get? k entries := by
  induction entries with
  | nil => simp [put, get?, eq_comm]
  | cons e rest ih =>
    obtain ⟨j, v⟩ := e
    by_cases hj : j = key
    · by_cases hk : k = key <;> simp_all [put, get?, eq_comm]
    · by_cases hk : k = key
      · subst hk
        simp [put, get?, hj, ih]
      · simp [put, get?, hj, hk, ih]

/-- A new key is added at the end. -/
theorem put_of_not_mem {key : String} {entries : List (String × α)}
    (h : key ∉ entries.map Prod.fst) (value : α) :
    put key value entries = entries ++ [(key, value)] := by
  induction entries with
  | nil => rfl
  | cons e rest ih =>
    obtain ⟨j, v⟩ := e
    obtain ⟨hj, hrest⟩ : key ≠ j ∧ key ∉ rest.map Prod.fst := by simpa using h
    rw [put, if_neg hj.symm, ih hrest, List.cons_append]

/-- Putting the value that a key has changes nothing. -/
theorem put_of_get? {key : String} {value : α} {entries : List (String × α)}
    (h : get? key entries = some value) : put key value entries = entries := by
  induction entries with
  | nil => simp [get?] at h
  | cons e rest ih =>
    obtain ⟨j, v⟩ := e
    by_cases hj : j = key
    · simp_all [get?, put]
    · simp only [get?, hj, if_false] at h
      simp [put, hj, ih h]

/-- A key that was removed has no value, and other keys those they had. -/
theorem get?_remove (key k : String) (entries : List (String × α)) :
    get? k (remove key entries) = if k = key then none else get? k entries := by
  induction entries with
  | nil => simp [remove, get?]
  | cons e rest ih =>
    obtain ⟨j, v⟩ := e
    simp only [remove] at ih
    by_cases hj : j = key
    · subst hj
      by_cases hk : k = j
      · subst hk
        simpa [remove] using ih
      · have hjk : ¬ j = k := fun e => hk e.symm
        simp [remove, get?, hk, hjk, ih]
    · by_cases hk : k = key
      · subst hk
        simp [remove, get?, hj, ih]
      · simp [remove, get?, hj, hk, ih]

/-- A key that is removed need not be put before. -/
theorem remove_put (key : String) (value : α) (entries : List (String × α)) :
    remove key (put key value entries) = remove key entries := by
  induction entries with
  | nil => simp [remove, put]
  | cons e rest ih =>
    obtain ⟨j, v⟩ := e
    by_cases hj : j = key
    · simp [remove, put, hj]
    · simp only [remove] at ih
      simp [remove, put, hj, ih]

/-- A key that was removed is not removed again. -/
theorem remove_remove (key : String) (entries : List (String × α)) :
    remove key (remove key entries) = remove key entries := by
  simp [remove]

/-- A value of a key is that of one of the entries. -/
theorem mem_of_get? {key : String} {value : α} {entries : List (String × α)}
    (h : get? key entries = some value) : (key, value) ∈ entries := by
  induction entries with
  | nil => simp [get?] at h
  | cons e rest ih =>
    obtain ⟨j, v⟩ := e
    by_cases hj : j = key
    · simp_all [get?]
    · simp only [get?, hj, if_false] at h
      exact List.mem_cons_of_mem _ (ih h)

/-- An entry gives the value of its key where keys are distinct. -/
theorem get?_of_mem {key : String} {value : α} {entries : List (String × α)}
    (hdistinct : (entries.map Prod.fst).Nodup) (h : (key, value) ∈ entries) :
    get? key entries = some value := by
  induction entries with
  | nil => simp at h
  | cons e rest ih =>
    obtain ⟨j, v⟩ := e
    obtain ⟨hj, hrest⟩ := List.nodup_cons.1 hdistinct
    cases List.mem_cons.1 h with
    | inl heq => simp_all [get?]
    | inr hmem =>
      have hne : ¬ j = key := by
        intro heq
        apply hj
        rw [heq]
        exact List.mem_map.2 ⟨(key, value), hmem, rfl⟩
      simp only [get?, hne, if_false]
      exact ih hrest hmem

/-- The value of a key is looked for among the first entries, and then among the others. -/
theorem get?_append (key : String) (entries more : List (String × α)) :
    get? key (entries ++ more) = (get? key entries).or (get? key more) := by
  induction entries with
  | nil => rfl
  | cons e rest ih =>
    obtain ⟨j, v⟩ := e
    by_cases hj : j = key
    · simp [get?, hj]
    · simp [get?, hj, ih]

/-- The values of changed entries are the changed values. -/
theorem get?_map (f : String → α → β) (key : String) (entries : List (String × α)) :
    get? key (entries.map fun (k, v) => (k, f k v)) = (get? key entries).map (f key) := by
  induction entries with
  | nil => rfl
  | cons e rest ih =>
    obtain ⟨j, v⟩ := e
    by_cases hj : j = key
    · subst hj
      simp [get?]
    · simp only [List.map_cons, get?, hj, if_false]
      exact ih

/-- Distinct keys stay distinct when a value is put. -/
theorem nodup_put {key : String} {value : α} {entries : List (String × α)}
    (h : (entries.map Prod.fst).Nodup) : ((put key value entries).map Prod.fst).Nodup := by
  rw [keys_put]
  split
  · exact h
  · next hm =>
    rw [List.nodup_append]
    refine ⟨h, by simp, ?_⟩
    intro a ha b hb hab
    simp only [List.mem_singleton] at hb
    subst hb
    exact hm (hab ▸ ha)

/-- Distinct keys stay distinct when a key is removed. -/
theorem nodup_remove {key : String} {entries : List (String × α)}
    (h : (entries.map Prod.fst).Nodup) : ((remove key entries).map Prod.fst).Nodup :=
  h.sublist (List.filter_sublist.map Prod.fst)

end Entries

/-- A map from text to values that keeps the order in which its keys came. -/
structure OrderedMap (α : Type) where
  entries : List (String × α)
  distinct : (entries.map Prod.fst).Nodup

namespace OrderedMap

variable {α β : Type}

/-- Maps with the same entries are equal. -/
@[ext] theorem ext {m n : OrderedMap α} (h : m.entries = n.entries) : m = n := by
  cases m; cases n; cases h; rfl

instance [DecidableEq α] : DecidableEq (OrderedMap α) := fun m n =>
  decidable_of_iff (m.entries = n.entries) ⟨ext, fun h => h ▸ rfl⟩

/-- The map without entries. -/
def empty : OrderedMap α := ⟨[], .nil⟩

instance : Inhabited (OrderedMap α) := ⟨empty⟩

/-- The keys in order. -/
def keys (m : OrderedMap α) : List String := m.entries.map Prod.fst

/-- The values in order. -/
def values (m : OrderedMap α) : List α := m.entries.map Prod.snd

/-- The number of keys. -/
def size (m : OrderedMap α) : Nat := m.entries.length

/-- Whether there is no key. -/
def isEmpty (m : OrderedMap α) : Bool := m.entries.isEmpty

/-- The value of a key. -/
def get? (m : OrderedMap α) (key : String) : Option α := Entries.get? key m.entries

/-- Whether the map has a key. -/
def contains (m : OrderedMap α) (key : String) : Bool := (m.get? key).isSome

/-- The map with a value for a key; a key already there keeps its place. -/
def insert (m : OrderedMap α) (key : String) (value : α) : OrderedMap α :=
  ⟨Entries.put key value m.entries, Entries.nodup_put m.distinct⟩

/-- The map without a key; the others keep their order. -/
def erase (m : OrderedMap α) (key : String) : OrderedMap α :=
  ⟨Entries.remove key m.entries, Entries.nodup_remove m.distinct⟩

/-- The map of some entries inserted one after another. -/
def ofList (entries : List (String × α)) : OrderedMap α :=
  entries.foldl (fun m (key, value) => m.insert key value) empty

/-- The map with every value changed by a function of its key and value. -/
def mapEntries (f : String → α → β) (m : OrderedMap α) : OrderedMap β where
  entries := m.entries.map fun (key, value) => (key, f key value)
  distinct := by
    have h : (Prod.fst ∘ fun (e : String × α) => (e.1, f e.1 e.2)) = Prod.fst := rfl
    simpa [List.map_map, h] using m.distinct

/-- After an insertion a key has the new value if it is the one inserted, and else what it had before.
-/
@[simp] theorem get?_insert (m : OrderedMap α) (key k : String) (value : α) :
    (m.insert key value).get? k = if k = key then some value else m.get? k :=
  Entries.get?_put key k value m.entries

/-- After an erasure the erased key has no value, and every other key what it had before. -/
@[simp] theorem get?_erase (m : OrderedMap α) (key k : String) :
    (m.erase key).get? k = if k = key then none else m.get? k :=
  Entries.get?_remove key k m.entries

/-- What an insertion adds is taken away again with its key. -/
@[simp] theorem erase_insert (m : OrderedMap α) (key : String) (value : α) :
    (m.insert key value).erase key = m.erase key :=
  ext (Entries.remove_put key value m.entries)

/-- Inserting the value that a key has changes nothing. -/
theorem insert_of_get? {m : OrderedMap α} {key : String} {value : α} (h : m.get? key = some value) :
    m.insert key value = m :=
  ext (Entries.put_of_get? h)

/-- Entries with new keys are added at the end. -/
theorem entries_foldl_insert {m : OrderedMap α} {entries : List (String × α)}
    (h : ((m.entries ++ entries).map Prod.fst).Nodup) :
    (entries.foldl (fun m (key, value) => m.insert key value) m).entries = m.entries ++ entries := by
  induction entries generalizing m with
  | nil => simp
  | cons e rest ih =>
    obtain ⟨key, value⟩ := e
    have hkey : key ∉ m.entries.map Prod.fst := by
      intro hmem
      rw [List.map_append, List.nodup_append] at h
      exact h.2.2 key hmem key (List.mem_map.2 ⟨_, List.mem_cons_self, rfl⟩) rfl
    have hput : (m.insert key value).entries = m.entries ++ [(key, value)] :=
      Entries.put_of_not_mem hkey value
    have hinsert : (m.insert key value).entries ++ rest = m.entries ++ (key, value) :: rest := by
      rw [hput, List.append_assoc, List.singleton_append]
    rw [List.foldl_cons, ih (hinsert ▸ h), hinsert]

/-- A map is that of its entries. -/
theorem ofList_entries (m : OrderedMap α) : ofList m.entries = m :=
  ext (entries_foldl_insert m.distinct)

/-- A map over the entries changes the value of every key by the function for that key. -/
@[simp] theorem get?_mapEntries (f : String → α → β) (m : OrderedMap α) (key : String) :
    (m.mapEntries f).get? key = (m.get? key).map (f key) :=
  Entries.get?_map f key m.entries

/-- A map over the entries leaves the keys and their order. -/
@[simp] theorem keys_mapEntries (f : String → α → β) (m : OrderedMap α) :
    (m.mapEntries f).keys = m.keys := by
  simp [keys, mapEntries]

/-- What is made of the entries is made of the keys and their values. -/
theorem map_entries (m : OrderedMap α) (f : String → Option α → β) :
    (m.entries.map fun e => f e.1 (some e.2)) = m.keys.map fun key => f key (m.get? key) := by
  rw [keys, List.map_map]
  apply List.map_congr_left
  intro e he
  have hget : m.get? e.1 = some e.2 := Entries.get?_of_mem m.distinct he
  simp [hget]

/-- Distinct keys are their first occurrences. -/
theorem eraseDups_of_nodup {keys : List String} (h : keys.Nodup) : keys.eraseDups = keys := by
  induction keys with
  | nil => rfl
  | cons key rest ih =>
    obtain ⟨hkey, hrest⟩ := List.nodup_cons.1 h
    have hall : rest.filter (fun k => !k == key) = rest := by
      rw [List.filter_eq_self]
      intro k hk
      have hne : k ≠ key := fun heq => hkey (heq ▸ hk)
      simp [hne]
    rw [List.eraseDups_cons, hall, ih hrest]

/-- Keys come in the order in which they are first inserted. -/
theorem keys_foldl_insert (m : OrderedMap α) (entries : List (String × α)) :
    (entries.foldl (fun m (key, value) => m.insert key value) m).keys =
      (m.keys ++ entries.map Prod.fst).eraseDups := by
  induction entries generalizing m with
  | nil => simp [eraseDups_of_nodup m.distinct, keys]
  | cons e rest ih =>
    obtain ⟨key, value⟩ := e
    have hinsert : (m.insert key value).keys = if key ∈ m.keys then m.keys else m.keys ++ [key] :=
      Entries.keys_put key value m.entries
    rw [List.foldl_cons, ih, hinsert]
    by_cases hkey : key ∈ m.keys
    · rw [if_pos hkey, List.map_cons, List.eraseDups_append, List.eraseDups_append,
        List.removeAll, List.removeAll]
      simp [hkey]
    · rw [if_neg hkey, List.append_assoc]
      rfl

/-- A key has the value that was inserted for it last. -/
theorem get?_foldl_insert (m : OrderedMap α) (entries : List (String × α)) (key : String) :
    (entries.foldl (fun m (key, value) => m.insert key value) m).get? key =
      (Entries.get? key entries.reverse).or (m.get? key) := by
  induction entries generalizing m with
  | nil => rfl
  | cons e rest ih =>
    obtain ⟨j, value⟩ := e
    rw [List.foldl_cons, ih, get?_insert, List.reverse_cons, Entries.get?_append, Option.or_assoc]
    by_cases hj : key = j
    · simp [Entries.get?, hj]
    · have hj' : ¬ j = key := fun heq => hj heq.symm
      simp [Entries.get?, hj, hj']

/-- The keys of a map from a list are those of the list, each where it first stands. -/
theorem keys_ofList (entries : List (String × α)) :
    (ofList entries).keys = (entries.map Prod.fst).eraseDups :=
  keys_foldl_insert empty entries

/-- In a map from a list the last entry of a key counts. -/
theorem get?_ofList (entries : List (String × α)) (key : String) :
    (ofList entries).get? key = Entries.get? key entries.reverse :=
  (get?_foldl_insert empty entries key).trans Option.or_none

/-- The keys are those that have a value. -/
theorem mem_keys_iff (m : OrderedMap α) (key : String) : key ∈ m.keys ↔ m.contains key = true := by
  constructor
  · intro h
    obtain ⟨e, he, rfl⟩ := List.mem_map.1 h
    have hget : m.get? e.1 = some e.2 := Entries.get?_of_mem m.distinct he
    simp [contains, hget]
  · intro h
    obtain ⟨value, hvalue⟩ := Option.isSome_iff_exists.1 h
    exact List.mem_map.2 ⟨(key, value), Entries.mem_of_get? hvalue, rfl⟩

end OrderedMap
end RecordAccess
