import RecordAccess.Proofs.Database.Memo
import RecordAccess.Proofs.Use.Basic

/-!
# The schema catalog of a context

Runs in which schemas are asked for, by names in any letter case, while others change the cache
(`CatalogStep`). The memo of each table is consulted on its own: to consult one leaves the others
(`known_eq_of_ne`, `repliedOnce_of_ne`). So a schema that was given once is given ever after, without a
call and whatever the cache keeps by then (`known_afterCatalogSteps`), and the driver describes a table
at most once (`repliedOnce_afterCatalogSteps`). Where a schema comes from, under which key the cache
keeps it and what a failure leaves is said of one call (`Had`). `schemas_settled` puts this together.
-/

namespace RecordAccess.Database
open Access Memo

/-- A step of a run over the schema catalog. -/
inductive CatalogStep where
  | columnsFor (name : String)
  | hasColumn (name column : String)
  /-- the cache is changed by others -/
  | recache (cache : Cache)

/-- Take a step. -/
def CatalogStep.run : CatalogStep → Access Database Unit
  | columnsFor name => (Database.columnsFor name).ignored
  | hasColumn name column => (Database.hasColumn name column).ignored
  | recache cache => modify fun db => { db with cache }

/-- The database after some steps, whether they failed or not. -/
def afterCatalogSteps (steps : List CatalogStep) (db : Database) : Database :=
  steps.foldl (fun db step => (step.run.outcome db).2) db

variable {db db' : Database}

/-- To consult the memo of one table leaves what is known of another. -/
lemma known_eq_of_ne {table other : String} {r : Except Error TableSchema}
    (h : (schemaMemo table).Consulting db r db') (hne : other ≠ table) :
    db'.schemas.get? other = db.schemas.get? other := by
  cases h with
  | known _ => rfl
  | kept _ _ => simp [schemaMemo, hne]
  | fetched _ _ hfetching => simp [schemaMemo, hne, hfetching.knowledge_eq.2]
  | failed _ _ hfetching => rw [hfetching.knowledge_eq.2]

/-- To consult the memo of one table leaves the successes of describing another. -/
lemma successes_eq_of_ne {table other : String} {r : Except Error TableSchema}
    (h : (schemaMemo table).Consulting db r db') (hne : other ≠ table) :
    db'.successes (.columns other) = db.successes (.columns other) := by
  have hcall : (schemaMemo table).call ≠ .columns other := by
    intro heq
    cases heq
    exact hne rfl
  cases h with
  | known _ => rfl
  | kept _ _ => exact successes_learn _ _ _
  | fetched _ _ hfetching =>
    rw [successes_learn, hfetching.successes_eq]
    simp [hcall]
  | failed _ _ hfetching =>
    rw [hfetching.successes_eq]
    simp [hcall]

/-- To consult the memo of one table leaves another described at most once. -/
lemma repliedOnce_of_ne {table other : String} {r : Except Error TableSchema} {n : Nat}
    (h : (schemaMemo table).Consulting db r db') (hne : other ≠ table)
    (hdb : (schemaMemo other).RepliedOnce n db) : (schemaMemo other).RepliedOnce n db' := by
  have hknown : (schemaMemo other).known db' = (schemaMemo other).known db := known_eq_of_ne h hne
  have hsuccesses : db'.successes (schemaMemo other).call = db.successes (schemaMemo other).call :=
    successes_eq_of_ne h hne
  rw [RepliedOnce, hknown, hsuccesses]
  exact hdb

/-- A step consults the memo of one table, or changes the cache. -/
lemma consulting_of_step {step : CatalogStep} {r : Except Error Unit} (h : Runs step.run db r db') :
    (∃ table o, (schemaMemo table).Consulting db o db') ∨ ∃ cache, db' = { db with cache } := by
  cases step with
  | columnsFor name =>
    obtain ⟨o, -, hcolumns⟩ := runs_of_ignored h
    exact .inl ⟨lowercase name, o, consulting_of_columnsFor hcolumns⟩
  | hasColumn name column =>
    obtain ⟨_, -, hcolumn⟩ := runs_of_ignored h
    obtain ⟨o, -, hcolumns⟩ := runs_hasColumn.1 hcolumn
    exact .inl ⟨lowercase name, o, consulting_of_columnsFor hcolumns⟩
  | recache cache => exact .inr ⟨cache, (runs_modify.1 h).2⟩

/-- What every step keeps is kept by a run. -/
lemma afterCatalogSteps_induction {P : Database → Prop}
    (hconsult : ∀ table db o db', P db → (schemaMemo table).Consulting db o db' → P db')
    (hcache : ∀ (db : Database) cache, P db → P { db with cache }) (steps : List CatalogStep)
    (hdb : P db) : P (afterCatalogSteps steps db) := by
  refine keeps_foldl (fun step db r db' hdb hrun => ?_) steps hdb
  obtain ⟨table, o, hconsulting⟩ | ⟨cache, rfl⟩ := consulting_of_step hrun
  · exact hconsult table db o db' hdb hconsulting
  · exact hcache db cache hdb

/-- A schema that is known stays known. -/
lemma known_afterCatalogSteps {table : String} {schema : TableSchema} (steps : List CatalogStep)
    (h : db.schemas.get? table = some schema) :
    (afterCatalogSteps steps db).schemas.get? table = some schema := by
  refine afterCatalogSteps_induction (P := fun db => db.schemas.get? table = some schema)
    ?_ (fun _ _ h => h) steps h
  intro other db o db' hdb hconsulting
  by_cases hother : table = other
  · subst hother
    rw [(hconsulting.of_known hdb).2]
    exact hdb
  · rw [known_eq_of_ne hconsulting hother]
    exact hdb

/-- Every run over the catalog leaves each table described at most once. -/
lemma repliedOnce_afterCatalogSteps {table : String} (steps : List CatalogStep)
    (h : (schemaMemo table).RepliedOnce 0 db) :
    (schemaMemo table).RepliedOnce 0 (afterCatalogSteps steps db) := by
  refine afterCatalogSteps_induction ?_ (fun _ _ h => h) steps h
  intro other db o db' hdb hconsulting
  by_cases hother : table = other
  · subst hother
    exact hconsulting.repliedOnce hdb
  · exact repliedOnce_of_ne hconsulting hother hdb

/-- No call has succeeded where a context begins. -/
lemma successes_beginning (beginning : Beginning) (surroundings : Surroundings) (cache : Cache)
    (call : Call) : (beginning.database surroundings cache).successes call = 0 := by
  cases beginning <;> rfl

/-- How the schema of a table is had, by its name in lowercase, and what that leaves behind. -/
structure Had (table : String) (db : Database) (r : Except Error TableSchema) (db' : Database) :
    Prop where
  /-- A schema that is known is given, whatever the cache keeps. -/
  known : ∀ schema, db.schemas.get? table = some schema → r = .ok schema ∧ db' = db
  /-- Else the entry of the table in the cache is used, if a schema can be read from it, and nothing but
  what is known changes. -/
  kept : ∀ schema, db.schemas.get? table = none →
    (db.cache.get? ("schema:" ++ table)).bind TableSchema.ofJson? = some schema →
    r = .ok schema ∧ db' = { db with schemas := db.schemas.insert table schema }
  /-- Else the schema is built from the report of the driver, and written over the entry. -/
  built : ∀ schema, db.schemas.get? table = none →
    (db.cache.get? ("schema:" ++ table)).bind TableSchema.ofJson? = none → r = .ok schema →
    (∃ b native, db.Reports table b native ∧ schema = .ofNative b table native) ∧
      db'.schemas = db.schemas.insert table schema ∧
      db'.cache = db.cache.set ("schema:" ++ table) schema.toJson ∧
      ∀ entries, db.cache = .memory entries →
        db'.cache.get? ("schema:" ++ table) = some schema.toJson.canonical
  /-- A failure is one of the connection or of the table, and leaves what is remembered. -/
  failed : ∀ e, r = .error e → db'.schemas = db.schemas ∧ db'.cache = db.cache ∧
    ((e.isFatal = true ∧ Opening db (.error e) db') ∨
      ∃ cause, e = .schema table cause ∧ db.Refuses table cause)
  /-- What is known of other tables stays. -/
  others : ∀ other, other ≠ table → db'.schemas.get? other = db.schemas.get? other

/-- A schema is had as its memo is consulted. -/
lemma had_of_consulting {table : String} {r : Except Error TableSchema}
    (h : (schemaMemo table).Consulting db r db') : Had table db r db' where
  known _ hknown := h.of_known hknown
  kept _ hnew hkept := h.of_kept hnew hkept
  built := by
    rintro schema hnew hmissing rfl
    obtain ⟨hreports, hcache, hschemas⟩ := built_of_consulting h hnew hmissing
    refine ⟨hreports, hschemas, hcache, ?_⟩
    intro entries hentries
    rw [hcache, hentries]
    exact Cache.get?_set entries _ schema.toJson
  failed := by
    rintro e rfl
    obtain ⟨-, hcache⟩ := h.of_error
    refine ⟨?_, hcache, failure_of_consulting_schema h⟩
    cases h with
    | failed _ _ hfetching => exact hfetching.knowledge_eq.2
  others _ hne := known_eq_of_ne h hne

/-- A schema that is known is given by every name of its table, without any change. -/
lemma runs_columnsFor_of_known {name : String} {schema : TableSchema}
    (h : db.schemas.get? (lowercase name) = some schema) :
    Runs (columnsFor name) db (.ok schema) db := by
  obtain ⟨o, db₁, hrun⟩ := exists_runs (columnsFor name) db
  obtain ⟨rfl, rfl⟩ := (consulting_of_columnsFor hrun).of_known h
  exact hrun

/-- After any run over the catalog of a context, in which others changed the cache as they liked, the
driver has described each table at most once. A schema is had from what is known, else from the entry
under `schema:` and the table's name in lowercase, else from the driver (`Had`). From when a schema was
given on, every name that is the same in lowercase gives it, without a call or any other change. -/
theorem schemas_settled (beginning : Beginning) (surroundings : Surroundings) (cache : Cache)
    (steps : List CatalogStep) :
    let db := afterCatalogSteps steps (beginning.database surroundings cache)
    (∀ table, db.successes (.columns table) ≤ 1) ∧
      (∀ name column r db', Runs (hasColumn name column) db r db' ↔
        ∃ o, r = o.map (fun schema => decide (column ∈ schema.columns.keys)) ∧
          Runs (columnsFor name) db o db') ∧
      ∀ name r db', Runs (columnsFor name) db r db' →
        Had (lowercase name) db r db' ∧
          ∀ schema, r = .ok schema → ∀ later name', lowercase name' = lowercase name →
            let db'' := afterCatalogSteps later db'
            Runs (columnsFor name') db'' (.ok schema) db'' ∧
              ∀ column, Runs (hasColumn name' column) db''
                (.ok (decide (column ∈ schema.columns.keys))) db'' := by
  intro db
  refine ⟨?_, fun _ _ _ _ => runs_hasColumn, ?_⟩
  · intro table
    have hstart : (schemaMemo table).RepliedOnce 0 (beginning.database surroundings cache) := by
      rw [RepliedOnce, successes_beginning]
      exact Nat.zero_le _
    exact (repliedOnce_afterCatalogSteps steps hstart).successes_le
  intro name r db' h
  have hconsulting := consulting_of_columnsFor h
  refine ⟨had_of_consulting hconsulting, ?_⟩
  rintro schema rfl later name' hname db''
  have hknown : db''.schemas.get? (lowercase name') = some schema := by
    rw [hname]
    exact known_afterCatalogSteps later hconsulting.known_of_ok
  have hagain := runs_columnsFor_of_known hknown
  exact ⟨hagain, fun column => runs_hasColumn.2 ⟨.ok schema, rfl, hagain⟩⟩

end RecordAccess.Database
