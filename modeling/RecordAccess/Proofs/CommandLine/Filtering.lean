import RecordAccess.CommandLine.Run
import RecordAccess.Proofs.RecordSet.Sending
import RecordAccess.Proofs.Sql.Statement

/-!
# What a query command filters by

A filter among the arguments is a key and a value (`Parts`). The filters of a query give the conditions
of its statements: one for each key, in the order in which the keys first occur, with the value that
was given for the key last, or a test for NULL where the key is among those to be null (`stated`). A
value that reads as an integer stands there in its shortest form. These are the conditions that are
typed, if no key is typed twice and no integer is spelled in another form (`stated_eq_typed`).

`statements_of_query` says this of all statements that the command sends, except for those that fetch a
single row by its identity.
-/

namespace RecordAccess.CommandLine
open Access Sql

/-- A text is a key and a value, with the first equals sign after the comparator of the key between
them. The path of the key is not empty. -/
structure Parts (text key value : String) : Prop where
  text_eq : text = key ++ "=" ++ value
  key_eq : ∃ comparator c path, key.toList = comparator ++ c :: path ∧
    (∀ d ∈ comparator, isComparatorChar d = true) ∧ isComparatorChar c = false ∧ ¬ '=' ∈ path

/-- A path has no equals sign if it begins with another character than those of comparators, and has
none after it. -/
lemma not_mem_cons_of_not_comparator {c : Char} {path : List Char} (hc : isComparatorChar c = false)
    (hpath : ¬ '=' ∈ path) : ¬ '=' ∈ c :: path := by
  intro hmem
  obtain rfl | hmem := List.mem_cons.1 hmem
  · cases hc
  · exact hpath hmem

/-- What a filter is split into are its parts. -/
lemma parts_of_splitFilter? {text key value : String} (h : splitFilter? text = some (key, value)) :
    Parts text key value := by
  rw [splitFilter?, List.span_eq_takeWhile_dropWhile] at h
  cases hcut : cutAtFirst? '=' (text.toList.dropWhile isComparatorChar) with
  | none => simp [hcut] at h
  | some parts =>
    obtain ⟨path, after⟩ := parts
    obtain ⟨hrest, hpath⟩ := cutAtFirst?_eq_some.1 hcut
    cases path with
    | nil => simp [hcut] at h
    | cons c path =>
      obtain ⟨rfl, rfl⟩ : String.ofList (text.toList.takeWhile isComparatorChar ++ c :: path) =
          key ∧ String.ofList after = value := by simpa [hcut] using h
      -- the scanner's parts, put one after another, are the text
      have htext : text.toList =
          (text.toList.takeWhile isComparatorChar ++ c :: path) ++ '=' :: after := by
        rw [List.append_assoc, List.cons_append, ← List.cons_append, ← hrest]
        exact (List.takeWhile_append_dropWhile).symm
      have hc : isComparatorChar c = false := by
        have hhead := List.head?_dropWhile_not isComparatorChar text.toList
        rw [hrest] at hhead
        simpa using hhead
      refine ⟨?_, _, c, path, String.toList_ofList, ?_, hc, ?_⟩
      · apply String.toList_inj.1
        simpa using htext
      · exact List.all_eq_true.1 List.all_takeWhile
      · exact fun hmem => hpath (List.mem_cons_of_mem c hmem)

/-- A text with parts is split into them. -/
lemma Parts.splitFilter?_eq {text key value : String} (h : Parts text key value) :
    splitFilter? text = some (key, value) := by
  obtain ⟨rfl, comparator, c, path, hkey, hcomparator, hc, hpath⟩ := h
  -- the scanner stops where the comparator ends, and then at the first equals sign
  have htext : (key ++ "=" ++ value).toList = comparator ++ c :: (path ++ '=' :: value.toList) := by
    simp [hkey]
  have htake : (key ++ "=" ++ value).toList.takeWhile isComparatorChar = comparator := by
    rw [htext, List.takeWhile_append_of_pos hcomparator, List.takeWhile_cons_of_neg (by simp [hc]),
      List.append_nil]
  have hdrop : (key ++ "=" ++ value).toList.dropWhile isComparatorChar =
      (c :: path) ++ '=' :: value.toList := by
    rw [htext, List.dropWhile_append_of_pos hcomparator, List.dropWhile_cons_of_neg (by simp [hc])]
    rfl
  have hcut : cutAtFirst? '=' ((c :: path) ++ '=' :: value.toList) =
      some (c :: path, value.toList) :=
    cutAtFirst?_eq_some.2 ⟨rfl, not_mem_cons_of_not_comparator hc hpath⟩
  simp only [splitFilter?, List.span_eq_takeWhile_dropWhile, htake, hdrop, hcut]
  simp [← hkey]

/-- A filter is split into the key and the value that its text has, and is refused if it has none. -/
lemma splitFilter?_eq_some {text key value : String} :
    splitFilter? text = some (key, value) ↔ Parts text key value :=
  ⟨parts_of_splitFilter?, Parts.splitFilter?_eq⟩

/-- Filters are read in one way. -/
lemma given_eq {texts : List String} {given : List (String × String)}
    (h : List.Forall₂ (fun text e => Parts text e.1 e.2) texts given) :
    given = texts.filterMap splitFilter? := by
  induction h with
  | nil => rfl
  | cons hparts _ ih => rw [List.filterMap_cons_some (splitFilter?_eq_some.2 hparts), ← ih]

/-- The filters of a set are those of the arguments, inserted one after another. -/
lemma withFilters_eq {texts : List String} {set set' : RecordSet}
    (h : withFilters set texts = .ok set') :
    ∃ given : List (String × String), List.Forall₂ (fun text e => Parts text e.1 e.2) texts given ∧
      set' = given.foldl (fun set e => set.addFilter e.1 (filterValue e.2)) set := by
  induction texts generalizing set with
  | nil =>
    cases h
    exact ⟨[], .nil, rfl⟩
  | cons text texts ih =>
    cases hsplit : splitFilter? text with
    | none => simp [withFilters, hsplit] at h
    | some e =>
      simp only [withFilters, hsplit] at h
      obtain ⟨given, hgiven, rfl⟩ := ih h
      exact ⟨e :: given, .cons (splitFilter?_eq_some.1 hsplit) hgiven, rfl⟩

/-- A set that has been given some filters, and has not been used yet. -/
structure Fresh (table : String) (filters : Filters) (set : RecordSet) : Prop where
  table_eq : set.table = table
  filters_eq : set.filters = filters
  total_eq : set.total = none

variable {table : String} {filters : Filters} {set set' : RecordSet}

/-- Filters added to a fresh set one after another leave it fresh, with the filters inserted. -/
lemma Fresh.foldl_addFilter (h : Fresh table filters set) (entries : List (String × Value)) :
    Fresh table (entries.foldl (fun m (key, value) => m.insert key value) filters)
      (entries.foldl (fun set e => set.addFilter e.1 e.2) set) := by
  induction entries generalizing set filters with
  | nil => exact h
  | cons e entries ih =>
    have hadded : Fresh table (filters.insert e.1 e.2) (set.addFilter e.1 e.2) :=
      ⟨h.table_eq, congrArg (fun m => OrderedMap.insert m e.1 e.2) h.filters_eq, rfl⟩
    exact ih hadded

/-- Sorts leave a fresh set fresh, with the same filters. -/
lemma Fresh.withSorts {texts : List String} (h : Fresh table filters set)
    (hsorts : withSorts set texts = .ok set') : Fresh table filters set' := by
  induction texts generalizing set with
  | nil =>
    cases hsorts
    exact h
  | cons text texts ih =>
    cases hsplit : splitSort text with
    | error fault => simp [CommandLine.withSorts, hsplit, bind, Except.bind] at hsorts
    | ok sort =>
      simp only [CommandLine.withSorts, hsplit, bind, Except.bind] at hsorts
      have hsorted : Fresh table filters (set.sortBy sort.1 sort.2) :=
        ⟨h.table_eq, h.filters_eq, rfl⟩
      exact ih hsorted hsorts

/-- The filters that a query states: those given, and then the tests for NULL. -/
def entriesOf (given : List (String × String)) (nulls : List String) : List (String × Value) :=
  (given.map fun e => (e.1, filterValue e.2)) ++ nulls.map fun key => (key, .null)

/-- The set of a query that is accepted has the filters that the query states. -/
lemma filters_of_toSet {wanted : Query} (h : wanted.toSet = .ok set) :
    ∃ given : List (String × String),
      List.Forall₂ (fun text e => Parts text e.1 e.2) wanted.filters given ∧
        Fresh (lowercase wanted.table) (.ofList (entriesOf given wanted.nulls)) set := by
  unfold Query.toSet at h
  cases hfilters : CommandLine.withFilters
      ((RecordSetOf.ofTable wanted.table).withPageSize wanted.pageSize) wanted.filters with
  | error fault => simp [hfilters, bind, Except.bind] at h
  | ok filtered =>
    simp only [hfilters, bind, Except.bind] at h
    obtain ⟨given, hgiven, rfl⟩ := withFilters_eq hfilters
    have hempty : Fresh (lowercase wanted.table) .empty
        ((RecordSetOf.ofTable wanted.table).withPageSize wanted.pageSize) := ⟨rfl, rfl, rfl⟩
    have hall := hempty.foldl_addFilter (entriesOf given wanted.nulls)
    refine ⟨given, hgiven, ?_⟩
    apply Fresh.withSorts _ h
    simpa [entriesOf, OrderedMap.ofList, List.foldl_append, List.foldl_map] using hall

/-- The condition on a key: a comparison with a text, or a test for NULL if there is none. -/
def conditionTokens (base key : String) (text? : Option String) : List Token :=
  let (comparator, path) := Comparator.split key
  pathTokens base (.ofText path) ++
    match text? with
    | some text => [.mark (comparisonMark comparator), .ofText text]
    | none => nullTokens comparator

/-- The text that a value is compared by: an integer has its shortest form, any other text stays. -/
def comparedText (text : String) : String :=
  match readInt64? text.toList with
  | some n => integerText n.toInt
  | none => text

/-- The conditions that some filters and some keys to be null state: one for each key, in the order
in which the keys first occur. The value of a key is the one given last. -/
def stated (base : String) (given : List (String × String)) (nulls : List String) :
    List (List Token) :=
  (given.map Prod.fst ++ nulls).eraseDups.map fun key =>
    conditionTokens base key
      (if key ∈ nulls then none else (Entries.get? key given.reverse).map comparedText)

/-- The conditions that are typed: one for each filter, with its value as it stands, and then a test
for each key to be null. -/
def typed (base : String) (given : List (String × String)) (nulls : List String) :
    List (List Token) :=
  given.map (fun (key, value) => conditionTokens base key (some value)) ++
    nulls.map fun key => conditionTokens base key none

/-- What is typed is what is stated, if no key is typed twice and the integers are in their shortest
form. -/
lemma stated_eq_typed {given : List (String × String)} {nulls : List String} (base : String)
    (hkeys : (given.map Prod.fst ++ nulls).Nodup)
    (hvalues : ∀ key value, (key, value) ∈ given → comparedText value = value) :
    stated base given nulls = typed base given nulls := by
  obtain ⟨hgiven, -, hapart⟩ := List.nodup_append.1 hkeys
  rw [stated, typed, OrderedMap.eraseDups_of_nodup hkeys, List.map_append, List.map_map]
  congr 1
  · apply List.map_congr_left
    rintro ⟨key, value⟩ hmem
    have hkey : ¬ key ∈ nulls := fun hnull => hapart key (List.mem_map_of_mem hmem) key hnull rfl
    have hreversed : (given.reverse.map Prod.fst).Nodup := by
      rw [List.map_reverse]
      exact (List.reverse_perm _).nodup_iff.2 hgiven
    have hlast : Entries.get? key given.reverse = some value :=
      Entries.get?_of_mem hreversed (List.mem_reverse.2 hmem)
    simp [hkey, hlast, hvalues key value hmem]
  · apply List.map_congr_left
    intro key hmem
    simp [hmem]

/-- The tables and conditions of a query. -/
def fromTokens (base : String) (joins : List Join) (conditions : List (List Token)) : List Token :=
  .word "FROM" :: .ofName base :: (joins.flatMap joinTokens ++ whereTokens conditions)

/-- A statement of a query with some conditions counts its rows or fetches a page of them. -/
inductive Filtered (b : Backend) (base : String) (conditions : List (List Token)) (sql : String) :
    Prop where
  | count {joins} :
    tokens b sql = some (countTokens base joins ++ fromTokens base joins conditions) →
    Filtered b base conditions sql
  | page {joins dedup sorts limit offset} :
    tokens b sql = some (rowTokens base dedup ++ fromTokens base joins conditions ++
      orderTokens base sorts ++ windowTokens b limit offset) →
    Filtered b base conditions sql

/-- The text that a value is compared by, if it is not null. -/
def textOf? (value : Value) : Option String := if value = .null then none else some value.sqlText

/-- The condition that a filter states is the one on its key and on the text of its value. -/
lemma filterTokens_eq (base key : String) (value : Value) :
    filterTokens base key value = conditionTokens base key (textOf? value) := by
  by_cases hnull : value = .null <;> simp [filterTokens, conditionTokens, textOf?, hnull]

/-- The value of a filter is compared by the text that was given, or by its shortest form if it is an
integer. -/
lemma textOf?_filterValue (text : String) : textOf? (filterValue text) = some (comparedText text) := by
  unfold filterValue comparedText
  cases readInt64? text.toList with
  | some n => rfl
  | none => rfl

/-- The last value of a key is null if the key is to be null, and else that of the last filter. -/
lemma get?_entriesOf (given : List (String × String)) (nulls : List String) (key : String) :
    (Entries.get? key (entriesOf given nulls).reverse).bind textOf? =
      if key ∈ nulls then none else (Entries.get? key given.reverse).map comparedText := by
  -- the tests for NULL come last, so that they stand before the filters from the end
  have hnulls (keys : List String) : Entries.get? key (keys.map fun key => (key, Value.null)) =
      if key ∈ keys then some .null else none := by
    induction keys with
    | nil => rfl
    | cons k rest ih =>
      by_cases hk : k = key
      · simp [Entries.get?, hk]
      · have hk' : ¬ key = k := fun heq => hk heq.symm
        simp [Entries.get?, hk, hk', ih]
  have hgiven : Entries.get? key (given.reverse.map fun e => (e.1, filterValue e.2)) =
      (Entries.get? key given.reverse).map filterValue :=
    Entries.get?_map (fun _ => filterValue) key given.reverse
  rw [entriesOf, List.reverse_append, ← List.map_reverse, ← List.map_reverse, Entries.get?_append,
    hnulls, hgiven]
  by_cases hkey : key ∈ nulls
  · simp [hkey, textOf?]
  · cases Entries.get? key given.reverse with
    | none => simp [hkey]
    | some text => simp [hkey, textOf?_filterValue]

/-- The conditions of a query are those that its arguments state. -/
lemma conditions_eq (base : String) (given : List (String × String)) (nulls : List String) :
    ((OrderedMap.ofList (entriesOf given nulls)).entries.map fun (key, value) =>
      filterTokens base key value) = stated base given nulls := by
  have hkeys : (entriesOf given nulls).map Prod.fst = given.map Prod.fst ++ nulls := by
    simp [entriesOf, Function.comp_def]
  have hentries := (OrderedMap.ofList (entriesOf given nulls)).map_entries
    fun key value? => conditionTokens base key (value?.bind textOf?)
  rw [OrderedMap.keys_ofList, hkeys] at hentries
  simp only [filterTokens_eq, stated]
  refine hentries.trans ?_
  apply List.map_congr_left
  intro key _
  rw [OrderedMap.get?_ofList, get?_entriesOf]

section Statements
variable {b : Backend} {given : List (String × String)} {nulls : List String}

/-- The tables and conditions of a set's statements are those that the query states. -/
lemma Fresh.tokens_fromClause (h : Fresh table (.ofList (entriesOf given nulls)) set) :
    tokens b (set.selectFor b).fromClause =
      some (fromTokens (lowercase set.table) (set.selectFor b).joins
        (stated (lowercase set.table) given nulls)) := by
  rw [← conditions_eq, ← h.filters_eq]
  exact Sql.tokens_fromClause b set.table set.filters set.sorts

/-- The counting statement of a set is the count over what the query states. -/
lemma Fresh.tokens_countStatement (h : Fresh table (.ofList (entriesOf given nulls)) set) :
    tokens b (set.countStatement b) =
      some (countTokens (lowercase set.table) (set.selectFor b).joins ++
        fromTokens (lowercase set.table) (set.selectFor b).joins
          (stated (lowercase set.table) given nulls)) :=
  tokens_countSql (s := set.selectFor b) h.tokens_fromClause

/-- The statements of a set have the conditions that its filters were stated by. -/
lemma Fresh.filtered {sql : String} (h : Fresh table (.ofList (entriesOf given nulls)) set)
    (hsql : RecordSetOf.Statement set b sql) :
    Filtered b (lowercase set.table) (stated (lowercase set.table) given nulls) sql ∨
      ∃ table id, sql = recordSql b table id := by
  cases hsql with
  | count => exact .inl (.count h.tokens_countStatement)
  | page index =>
    have horder := tokens_order b set.table set.filters set.sorts
    exact .inl (.page
      (tokens_pageSql (s := set.selectFor b) _ _ set.dedup h.tokens_fromClause horder))
  | record table id => exact .inr ⟨table, id, rfl⟩

end Statements

/-- The database of a command once it is connected. -/
def connected (config : Config) (surroundings : Surroundings) (handles : Handles) : Database :=
  { Database.ofConfig config surroundings .emptyMemory with
    handles := some (.ok handles)
    attempts := 1 }

/-- The report of a query whose rows were taken, or not to be had. -/
def reportOf (set : RecordSet) (format : Format) (r : Except Error (List Row)) (db : Database) :
    Report :=
  match r with
  | .ok rows => ⟨rowsText set rows format, none, db.log.reverse⟩
  | .error e => ⟨"", some (.access e), db.log.reverse⟩

/-- A query command takes the rows of its set on the connection. -/
lemma run_query {files : String → Found} {surroundings : Surroundings}
    {named : Option String} (wanted : Query) {config : Config} {handles : Handles}
    (hconfig : findConfig files surroundings.environment named = .ok config)
    (hconnect : (Database.ofConfig config surroundings .emptyMemory).connect = .ok handles)
    (hset : wanted.toSet = .ok set) :
    ∃ r t, Runs (RecordSetOf.takeRows wanted.limit) ⟨set, connected config surroundings handles⟩ r t ∧
      run files surroundings ⟨named, .query wanted⟩ = reportOf set wanted.format r t.database := by
  have hopen : RunM.access Database.getHandles
      ⟨Database.ofConfig config surroundings .emptyMemory, ""⟩ =
        .ok handles ⟨connected config surroundings handles, ""⟩ := by
    rw [RunM.access, Database.getHandles, hconnect]
    rfl
  cases htake : RecordSetOf.takeRows wanted.limit ⟨set, connected config surroundings handles⟩ with
  | ok rows t =>
    have htaken : RunM.access (Focus.on set (RecordSetOf.takeRows wanted.limit))
        ⟨connected config surroundings handles, ""⟩ = .ok rows ⟨t.database, ""⟩ := by
      simp only [RunM.access, Focus.on, zoom, htake]
    refine ⟨.ok rows, t, by rw [Runs, outcome, htake], ?_⟩
    simp only [run, hconfig, Command.run, showQuery, hset, bind, EStateM.bind, hopen, htaken]
    exact congrArg (fun output => Report.mk output none _) String.empty_append
  | error e t =>
    have htaken : RunM.access (Focus.on set (RecordSetOf.takeRows wanted.limit))
        ⟨connected config surroundings handles, ""⟩ = .error (.access e) ⟨t.database, ""⟩ := by
      simp only [RunM.access, Focus.on, zoom, htake]
    refine ⟨.error e, t, by rw [Runs, outcome, htake], ?_⟩
    simp only [run, hconfig, Command.run, showQuery, hset, bind, EStateM.bind, hopen, htaken]
    rfl

/-- A query command takes rows of its set over the connection, and its log is the one that this leaves. -/
lemma runs_takeRows_of_run {files : String → Found} {surroundings : Surroundings}
    {named : Option String} {wanted : Query} {config : Config} {handles : Handles}
    (hconfig : findConfig files surroundings.environment named = .ok config)
    (hconnect : (Database.ofConfig config surroundings .emptyMemory).connect = .ok handles)
    (hset : wanted.toSet = .ok set) :
    ∃ r t, Runs (RecordSetOf.takeRows wanted.limit) ⟨set, connected config surroundings handles⟩ r t ∧
      (run files surroundings ⟨named, .query wanted⟩).log = t.database.log.reverse := by
  obtain ⟨r, t, hrun, hreport⟩ := run_query wanted hconfig hconnect hset
  refine ⟨r, t, hrun, ?_⟩
  rw [hreport]
  cases r <;> rfl

/-- The statements that a query command sends: the first of them counts the rows, if any is wanted, and
all of them have the conditions that the arguments state, except for those that fetch a row by its
identity. -/
theorem statements_of_query {files : String → Found} {surroundings : Surroundings}
    {named : Option String} {wanted : Query} {config : Config} {handles : Handles}
    (hconfig : findConfig files surroundings.environment named = .ok config)
    (hconnect : (Database.ofConfig config surroundings .emptyMemory).connect = .ok handles)
    (hset : wanted.toSet = .ok set) :
    ∃ given : List (String × String),
      List.Forall₂ (fun text e => Parts text e.1 e.2) wanted.filters given ∧
        let base := lowercase set.table
        let conditions := stated base given wanted.nulls
        let log := (run files surroundings ⟨named, .query wanted⟩).log
        (wanted.limit ≠ some 0 → ∃ sql, log.head? = some sql ∧
          ∃ joins, tokens handles.backend sql =
            some (countTokens base joins ++ fromTokens base joins conditions)) ∧
        ∀ sql ∈ log, Filtered handles.backend base conditions sql ∨
          ∃ table id, sql = recordSql handles.backend table id := by
  obtain ⟨given, hgiven, hfresh⟩ := filters_of_toSet hset
  obtain ⟨r, t, hrun, hlog⟩ := runs_takeRows_of_run hconfig hconnect hset
  have hhandles : ∃ known, (connected config surroundings handles).handles = some (.ok known) ∧
      known.backend = handles.backend := ⟨handles, rfl, rfl⟩
  have hstart : RecordSetOf.Sending set handles.backend
      ⟨set, connected config surroundings handles⟩ :=
    ⟨rfl, hhandles, fun sql hsql => nomatch hsql⟩
  -- what was sent by the end is of the set, and the first of it is its count
  have hend := RecordSetOf.keeps_sending_takeRows wanted.limit _ r t hstart hrun
  simp only [hlog]
  refine ⟨given, hgiven, fun hlimit => ?_, fun sql hsql => ?_⟩
  · obtain ⟨later, hlater⟩ := RecordSetOf.counted_of_takeRows hlimit hfresh.total_eq hhandles hrun
    refine ⟨set.countStatement handles.backend, ?_, _, hfresh.tokens_countStatement⟩
    have hfirst : t.database.log.reverse = set.countStatement handles.backend :: later.reverse := by
      rw [← hlater, List.reverse_append]
      rfl
    rw [hfirst, List.head?_cons]
  · exact hfresh.filtered (hend.sends.log sql (List.mem_reverse.1 hsql))

/-- A database that has no rows. -/
def emptyShop : Driver where
  backend := .sqlite
  databaseName := "shop"
  serverVersion := .ok "3"
  queryRows _ _ := .ok []
  listTables _ := .ok ["widget"]
  nativeColumns _ _ := .ok []

/-- Surroundings in which the environment names the file of the shop. -/
def shop : Surroundings where
  environment
    | "HOME" => some "/home"
    | "DB_TYPE" => some "sqlite"
    | "DB_PATH" => some "shop.db"
    | _ => none
  openFile _ := .ok emptyShop
  connectServer _ := .error "no server"

/-- The widgets of a code and without a maker, the quantity of which is given twice. -/
def widgetQuery : Query where
  table := "widget"
  filters := [">qty=1", ">qty=2", "code=007"]
  nulls := ["maker_id"]
  sorts := []
  pageSize := 100
  limit := none
  format := .json

def widgetSet : RecordSet :=
  { (RecordSetOf.ofTable "widget").withPageSize 100 with
    filters := .ofList [(">qty", .int 2), ("code", .int 7), ("maker_id", .null)] }

def widgetReport : Report := run (fun _ => .nothing) shop ⟨none, .query widgetQuery⟩

/-- The shop has a configuration for SQLite in its surroundings. -/
lemma findConfig_shop :
    findConfig (fun _ => .nothing) shop.environment none = .ok (.sqlite "shop.db") := rfl

/-- The shop's database can be connected to. -/
lemma connect_shop : (Database.ofConfig (.sqlite "shop.db") shop .emptyMemory).connect =
    .ok ⟨.sqlite, .ofDriver emptyShop, none⟩ := rfl

/-- The query for widgets is accepted, as the set of widgets. -/
lemma toSet_widgetQuery : widgetQuery.toSet = .ok widgetSet := rfl

/-- The conditions on widgets have the second of the quantities and the shortest form of the code. -/
theorem statements_of_widgetQuery :
    let conditions := [conditionTokens "widget" ">qty" (some "2"),
      conditionTokens "widget" "code" (some "7"), conditionTokens "widget" "maker_id" none]
    (∃ sql, widgetReport.log.head? = some sql ∧ ∃ joins, tokens .sqlite sql =
      some (countTokens "widget" joins ++ fromTokens "widget" joins conditions)) ∧
    ∀ sql ∈ widgetReport.log, Filtered .sqlite "widget" conditions sql ∨
      ∃ table id, sql = recordSql .sqlite table id := by
  obtain ⟨given, hgiven, hcount, hall⟩ :=
    statements_of_query findConfig_shop connect_shop toSet_widgetQuery
  obtain rfl := given_eq hgiven
  exact ⟨hcount (by decide), hall⟩

/-- The statement that counts the widgets asked for. -/
def widgetCount : String :=
  "SELECT COUNT(`widget`.`id`) AS `count`\nFROM `widget`\n" ++
    "WHERE `widget`.`qty` > '2'\n\tAND `widget`.`code` = '7'\n\tAND `widget`.`maker_id` IS NULL"

/-- The report on widgets sends the count and, as it is zero, nothing else. -/
lemma log_widgetReport : widgetReport.log = [widgetCount] := by decide +kernel

/-- The count of widgets has one condition for each key: the later number, seven in its shortest form,
and NULL. -/
lemma tokens_widgetCount : tokens .sqlite widgetCount =
    some (countTokens "widget" [] ++ fromTokens "widget" []
      [conditionTokens "widget" ">qty" (some "2"), conditionTokens "widget" "code" (some "7"),
        conditionTokens "widget" "maker_id" none]) := by
  decide +kernel

/-- The conditions of a query are not always those that are typed. -/
theorem not_filtered_typed :
    ¬ ∀ (files : String → Found) (surroundings : Surroundings) (named : Option String)
      (wanted : Query) (config : Config) (handles : Handles) (set : RecordSet)
      (given : List (String × String)),
      findConfig files surroundings.environment named = .ok config →
      (Database.ofConfig config surroundings .emptyMemory).connect = .ok handles →
      wanted.toSet = .ok set →
      List.Forall₂ (fun text e => Parts text e.1 e.2) wanted.filters given →
      ∀ sql ∈ (run files surroundings ⟨named, .query wanted⟩).log,
        Filtered handles.backend (lowercase set.table)
            (typed (lowercase set.table) given wanted.nulls) sql ∨
          ∃ table id, sql = recordSql handles.backend table id := by
  intro h
  have hgiven : List.Forall₂ (fun text e => Parts text e.1 e.2) widgetQuery.filters
      [(">qty", "1"), (">qty", "2"), ("code", "007")] := by
    refine .cons (splitFilter?_eq_some.1 ?_) (.cons (splitFilter?_eq_some.1 ?_)
      (.cons (splitFilter?_eq_some.1 ?_) .nil)) <;> decide
  have hsent : widgetCount ∈ widgetReport.log := by rw [log_widgetReport]; exact List.mem_cons_self
  obtain hfiltered | ⟨table, id, hrecord⟩ :=
    h _ _ _ _ _ _ _ _ findConfig_shop connect_shop toSet_widgetQuery hgiven _ hsent
  · cases hfiltered with
    | @count joins hcount =>
      have heq := Option.some.inj (tokens_widgetCount.symm.trans hcount)
      -- a count over joins would be of distinct rows
      cases joins with
      | nil => revert heq; decide
      | cons join joins => simp [countTokens, distinctTokens, columnTokens, Token.ofName] at heq
    | @page joins dedup sorts limit offset hpage =>
      have heq := Option.some.inj (tokens_widgetCount.symm.trans hpage)
      -- after SELECT stands COUNT, and never in a statement that fetches rows
      cases dedup <;> simp [countTokens, rowTokens, distinctTokens, Token.ofName] at heq
  · have heq := tokens_widgetCount.symm.trans (hrecord ▸ tokens_recordSql .sqlite table id)
    simp [countTokens, recordTokens] at heq

end RecordAccess.CommandLine
