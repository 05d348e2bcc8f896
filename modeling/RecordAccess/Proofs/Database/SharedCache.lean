import Mathlib.Tactic.Common
import RecordAccess.Proofs.Database.Memo
import RecordAccess.Proofs.TableSchema.Recalled

/-!
# Schemas in a shared cache

A schema that is built is put into the cache (`built_of_columnsFor`), and a database that finds it
there takes it from there without any call (`runs_columnsFor_of_cached`). What a second database has of
a first one by a cache that they share is thus the schema that was kept (`TableSchema.recalled`), which
is the one that was built if its columns came in the order of their names, with finite bounds and with
defaults that are no dates and have a number in JSON.
-/

namespace RecordAccess
open Access

namespace Database
variable {db db' : Database} {name : String} {schema : TableSchema}

/-- A schema that is neither known nor cached is built, and then cached. -/
lemma built_of_columnsFor (hnew : db.schemas.get? (lowercase name) = none)
    (hmissing : (db.cache.get? (schemaKey (lowercase name))).bind TableSchema.ofJson? = none)
    (h : Runs (columnsFor name) db (.ok schema) db') :
    db'.cache = db.cache.set (schemaKey (lowercase name)) schema.toJson ∧
      ∃ b native, db.Reports (lowercase name) b native ∧
        schema = .ofNative b (lowercase name) native := by
  obtain ⟨hreports, hcache, -⟩ := built_of_consulting (consulting_of_columnsFor h) hnew hmissing
  exact ⟨hcache, hreports⟩

/-- A schema that is cached but not known is taken from the cache; no call is made for it. -/
lemma runs_columnsFor_of_cached (hnew : db.schemas.get? (lowercase name) = none)
    (hcached : (db.cache.get? (schemaKey (lowercase name))).bind TableSchema.ofJson? =
      some schema) :
    Runs (columnsFor name) db (.ok schema)
      { db with schemas := db.schemas.insert (lowercase name) schema } := by
  apply runs_get_bind.2
  simp only [hnew, hcached, pure_bind]
  rw [runs_modify_bind]
  exact runs_pure.2 ⟨rfl, rfl⟩

/-- What a database has of the schema that another one built, by a cache that they share: its columns
in the order of their names, each found by its name as far as it is read back. It makes no call for
that. The schema is the same if and only if its columns were reported in the order of their names and
each of them survives. -/
theorem recalled_of_columnsFor {first first' second : Database} {entries : OrderedMap Json}
    {name : String} {schema : TableSchema} (hmemory : first.cache = .memory entries)
    (hnew : first.schemas.get? (lowercase name) = none)
    (hmissing : (entries.get? (schemaKey (lowercase name))).bind TableSchema.ofJson? = none)
    (hbuilt : Runs (columnsFor name) first (.ok schema) first')
    (hshared : second.cache.get? (schemaKey (lowercase name)) =
      first'.cache.get? (schemaKey (lowercase name)))
    (hnew' : second.schemas.get? (lowercase name) = none) :
    (∃ b native, first.Reports (lowercase name) b native ∧
        schema = .ofNative b (lowercase name) native) ∧
      (∀ name', lowercase name' = lowercase name →
        Runs (columnsFor name') second (.ok schema.recalled)
          { second with schemas := second.schemas.insert (lowercase name) schema.recalled }) ∧
      schema.recalled.name = schema.name ∧
      (∀ column, schema.recalled.column? column = (schema.column? column).map Column.recalled) ∧
      (schema.recalled = schema ↔ schema.Survives) := by
  have hmissing' :
      (first.cache.get? (schemaKey (lowercase name))).bind TableSchema.ofJson? = none := by
    rw [hmemory]
    exact hmissing
  obtain ⟨hcache, hreports⟩ := built_of_columnsFor hnew hmissing' hbuilt
  have hcached : (second.cache.get? (schemaKey (lowercase name))).bind TableSchema.ofJson? =
      some schema.recalled := by
    rw [hshared, hcache, hmemory, Cache.get?_set, Option.bind_some,
      TableSchema.ofJson?_canonical_toJson]
  refine ⟨hreports, ?_, rfl, schema.column?_recalled, TableSchema.recalled_eq_iff⟩
  intro name' hname
  have hrun := runs_columnsFor_of_cached (hname ▸ hnew') (hname ▸ hcached)
  rw [hname] at hrun
  exact hrun

/-- The columns of a table of books. -/
def bookColumns : List NativeColumn :=
  [⟨"title", "VARCHAR(10)", none, none, none, none⟩,
    ⟨"author", "VARCHAR(10)", none, none, none, none⟩]

/-- A database of books, the cache of which is still empty. -/
def library : Database :=
  .ofDrivers
    { backend := .sqlite
      databaseName := "main"
      serverVersion := .ok "3"
      queryRows := fun _ _ => .ok []
      listTables := fun _ => .ok ["book"]
      nativeColumns := fun _ _ => .ok bookColumns }
    none .empty .emptyMemory

/-- The schema of books as it is built. -/
def bookSchema : TableSchema := .ofNative .sqlite (lowercase "Book") bookColumns

/-- The database after the schema of books was asked for. -/
def usedLibrary : Database := ((columnsFor "Book").outcome library).2

/-- Another database of the books with the same cache. -/
def branchLibrary : Database := { library with cache := usedLibrary.cache }

/-- The library's schema of books is had, and the library is left as one that was used. -/
lemma runs_library : Runs (columnsFor "Book") library (.ok bookSchema) usedLibrary := rfl

/-- The other database has the schema of books by the cache. -/
theorem recalled_branchLibrary :
    Runs (columnsFor "Book") library (.ok bookSchema) usedLibrary ∧
      Runs (columnsFor "Book") branchLibrary (.ok bookSchema.recalled)
        { branchLibrary with
          schemas := branchLibrary.schemas.insert (lowercase "Book") bookSchema.recalled } := by
  have hshared : branchLibrary.cache.get? (schemaKey (lowercase "Book")) =
      usedLibrary.cache.get? (schemaKey (lowercase "Book")) := rfl
  have hrecalled := (recalled_of_columnsFor rfl rfl rfl runs_library hshared rfl).2.1
  exact ⟨runs_library, hrecalled "Book" rfl⟩

/-- The schema of books has the title first, and the author first when it is had by the cache. -/
theorem not_same_branchLibrary :
    ¬ ∀ (first first' second second' : Database) entries name schema schema',
      first.cache = .memory entries →
      first.schemas.get? (lowercase name) = none →
      (entries.get? (schemaKey (lowercase name))).bind TableSchema.ofJson? = none →
      Runs (columnsFor name) first (.ok schema) first' → second.cache = first'.cache →
      second.schemas.get? (lowercase name) = none →
      Runs (columnsFor name) second (.ok schema') second' → schema' = schema := by
  intro h
  have hcached : (branchLibrary.cache.get? (schemaKey (lowercase "Book"))).bind TableSchema.ofJson? =
      some bookSchema.recalled := by
    have hcache : branchLibrary.cache =
        (Cache.memory .empty).set (schemaKey (lowercase "Book")) bookSchema.toJson :=
      (built_of_columnsFor rfl rfl runs_library).1
    rw [hcache, Cache.get?_set, Option.bind_some, TableSchema.ofJson?_canonical_toJson]
  have hsame := h library usedLibrary branchLibrary _ _ "Book" bookSchema bookSchema.recalled rfl rfl
    rfl runs_library rfl rfl (runs_columnsFor_of_cached rfl hcached)
  have hkeys := Entries.increasing_iff.1 (TableSchema.recalled_eq_iff.1 hsame).increasing
  revert hkeys
  decide

end Database
end RecordAccess
