import RecordAccess.Proofs.CommandLine.Filtering
import RecordAccess.Proofs.RecordSet.Limit

/-!
# What a query command prints up to a limit

A query with a limit prints the first ones of the rows that it prints without one, in any format
(`limitedQuery_of_answers`). It asks for nothing if no row is wanted, and otherwise for no page behind the
one that holds the last row wanted, so that it does not matter what a later page is answered with. Without
a limit the rows are those of the set's own text.
-/

namespace RecordAccess.CommandLine
open Access RecordSetOf

/-- What a report tells: a text that was printed, or the error in the way of it. -/
def Tells (report : Report) : Except Error String → Prop
  | .ok text => report.output = text ∧ report.failure = none
  | .error e => report.output = "" ∧ report.failure = some (.access e)

/-- The reports of a query by its limit and its format, for a set whose statements are answered over a
database. -/
structure LimitedQuery (report : Option Nat → Format → Report) (set : RecordSet) (db : Database)
    (b : Backend) (answer : String → Except String (List Row)) : Prop where
  /-- Some rows, or an error, are what is told without a limit in every format. Of the rows a limit
  gives the first ones. -/
  first : ∃ all : Except Error (List Row), ∀ format,
    Tells (report none format) (all.map fun rows => rowsText set rows format) ∧
      ∀ rows, all = .ok rows → ∀ n,
        Tells (report (some n) format) (.ok (rowsText set (rows.take n) format))
  /-- Where no row is wanted nothing is sent. -/
  unasked : ∀ format, (report (some 0) format).log = [] ∧
    Tells (report (some 0) format) (.ok (rowsText set [] format))
  /-- No page is fetched behind the one that holds the last row wanted. -/
  pages : ∀ n format index, set.pageStatement index b ∈ (report (some n) format).log →
    index ≤ (n - 1) / set.pageSize
  /-- The rows are those of a list, if the pages of the rows wanted are slices of it. -/
  listed : ∀ limit format (counted rows : List Row), answer (set.countStatement b) = .ok counted →
    (∀ index, index * set.pageSize < bounded limit (countOf counted) →
      answer (set.pageStatement index b) =
        .ok ((rows.drop (index * set.pageSize)).take set.pageSize)) →
    Tells (report limit format)
        (((rows.take (bounded limit (countOf counted))).mapM fun row =>
          rowOf answer b (.ofRow set.table row)).map fun rows => rowsText set rows format) ∧
      ((∀ row ∈ rows.take (bounded limit (countOf counted)),
          row.contains Record.idName ∧ 2 ≤ row.size) →
        Tells (report limit format)
          (.ok (rowsText set (rows.take (bounded limit (countOf counted))) format)))
  /-- Without a limit the text is that of the set, and a line end. -/
  text : ∀ text s', Runs (toText 0) ⟨set, db⟩ text s' →
    Tells (report none .text) (text.map fun text => text ++ "\n")

/-- The report of some rows tells them, or the error they failed with. -/
lemma tells_reportOf (set : RecordSet) (format : Format) (r : Except Error (List Row))
    (db : Database) :
    Tells (reportOf set format r db) (r.map fun rows => rowsText set rows format) := by
  cases r with
  | ok rows => exact ⟨rfl, rfl⟩
  | error e => exact ⟨rfl, rfl⟩

section Query
variable {files : String → Found} {surroundings : Surroundings} {named : Option String}
  {wanted : Query} {config : Config} {handles : Handles} {set : RecordSet}
  {answer : String → Except String (List Row)}

/-- The connection of a command serves what its driver answers, and nothing was sent on it. -/
lemma serves_connected (config : Config) (surroundings : Surroundings)
    (hanswer : ∀ history sql, handles.read.driver.queryRows history sql = answer sql) :
    (connected config surroundings handles).Serves handles.backend answer ∧
      ∀ P, (connected config surroundings handles).Sends handles.backend P :=
  ⟨⟨handles, .inl rfl, rfl, hanswer⟩, fun _ => ⟨⟨handles, rfl, rfl⟩, nofun⟩⟩

/-- A query tells the rows that the answers give, and sends no statement that those up to its limit do
not take. -/
lemma tells_run (wanted : Query)
    (hconfig : findConfig files surroundings.environment named = .ok config)
    (hconnect : (Database.ofConfig config surroundings .emptyMemory).connect = .ok handles)
    (hset : wanted.toSet = .ok set)
    (hanswer : ∀ history sql, handles.read.driver.queryRows history sql = answer sql) :
    Tells (run files surroundings ⟨named, .query wanted⟩)
        ((rowsWanted answer handles.backend set wanted.limit).map
          fun rows => rowsText set rows wanted.format) ∧
      ∀ n, wanted.limit = some n → ∀ sql ∈ (run files surroundings ⟨named, .query wanted⟩).log,
        Needed set handles.backend n sql := by
  obtain ⟨hserves, hsends⟩ := serves_connected config surroundings hanswer
  obtain ⟨_, -, hfresh⟩ := filters_of_toSet hset
  obtain ⟨r, t, hrun, hreport⟩ := run_query wanted hconfig hconnect hset
  rw [hreport]
  constructor
  · obtain ⟨n, hn⟩ := exists_bounded_le answer handles.backend set wanted.limit
    obtain ⟨rfl, -⟩ := taking_of_serves hfresh.total_eq hserves (hsends _) hn hrun
    exact tells_reportOf set wanted.format _ t.database
  · intro n hlimit sql hsql
    have hn (counted : List Row) (_ : got answer (set.countStatement handles.backend) = .ok counted) :
        bounded wanted.limit (countOf counted) ≤ n := by
      rw [hlimit]
      exact Nat.min_le_left n _
    obtain ⟨-, -, hsent⟩ := taking_of_serves hfresh.total_eq hserves (hsends _) hn hrun
    have hlog : (reportOf set wanted.format r t.database).log = t.database.log.reverse := by
      cases r <;> rfl
    rw [hlog, List.mem_reverse] at hsql
    exact hsent.log sql hsql

/-- A limit leaves the first ones of the rows of a query, and nothing is asked for behind them. -/
theorem limitedQuery_of_answers
    (hconfig : findConfig files surroundings.environment named = .ok config)
    (hconnect : (Database.ofConfig config surroundings .emptyMemory).connect = .ok handles)
    (hset : wanted.toSet = .ok set)
    (hanswer : ∀ history sql, handles.read.driver.queryRows history sql = answer sql) :
    LimitedQuery
      (fun limit format => run files surroundings ⟨named, .query { wanted with limit, format }⟩)
      set (connected config surroundings handles) handles.backend answer := by
  obtain ⟨hserves, hsends⟩ := serves_connected config surroundings hanswer
  have htells (limit : Option Nat) (format : Format) :=
    tells_run { wanted with limit, format } hconfig hconnect hset hanswer
  refine ⟨⟨rowsWanted answer handles.backend set none, fun format => ⟨(htells none format).1, ?_⟩⟩,
    fun format => ⟨?_, (htells (some 0) format).1⟩, ?_, ?_, ?_⟩
  · intro rows hrows n
    have hfirst := (htells (some n) format).1
    rw [rowsWanted_take hrows n] at hfirst
    exact hfirst
  · obtain ⟨r, t, hrun, hreport⟩ :=
      run_query { wanted with limit := some 0, format } hconfig hconnect hset
    obtain ⟨rfl, rfl⟩ := runs_takeRows_zero.1 hrun
    rw [hreport]
    rfl
  · intro n format index hsql
    exact ((htells (some n) format).2 n rfl _ hsql).index_le
  · intro limit format counted rows hcount hpages
    have hlisted := (htells limit format).1
    rw [rowsWanted_of_slices hcount hpages] at hlisted
    refine ⟨hlisted, fun hwhole => ?_⟩
    rwa [mapM_rowOf_of_whole hserves set.table hwhole] at hlisted
  · intro text s' hrun
    obtain ⟨_, -, hfresh⟩ := filters_of_toSet hset
    rw [toText_of_serves hfresh.total_eq hserves (fun n => hsends _) hrun]
    have htold := (htells none .text).1
    cases hrows : rowsWanted answer handles.backend set none with
    | ok rows =>
      rw [hrows] at htold
      exact htold
    | error e =>
      rw [hrows] at htold
      exact htold

end Query

/-- All widgets, on pages of two. -/
def pagedQuery : Query where
  table := "widget"
  filters := []
  nulls := []
  sorts := []
  pageSize := 2
  limit := none
  format := .text

def pagedSet : RecordSet := (ofTable "widget").withPageSize 2

/-- The answers of a database of three widgets of which only the first page can be read. -/
def wornAnswer (sql : String) : Except String (List Row) :=
  if sql = pagedSet.countStatement .sqlite then .ok [.ofList [("count", .int 3)]]
  else if sql = pagedSet.pageStatement 0 .sqlite then .ok (widgets.take 2)
  else .error "disk I/O error"

def wornDriver : Driver := { emptyShop with queryRows := fun _ => wornAnswer }

def wornShop : Surroundings := { shop with openFile := fun _ => .ok wornDriver }

def wornReport (limit : Option Nat) (format : Format) : Report :=
  run (fun _ => .nothing) wornShop ⟨none, .query { pagedQuery with limit, format }⟩

/-- Limits are kept over a database of which only the first page can be read. -/
theorem limitedQuery_wornShop :
    findConfig (fun _ => .nothing) wornShop.environment none = .ok (.sqlite "shop.db") ∧
      (Database.ofConfig (.sqlite "shop.db") wornShop .emptyMemory).connect =
        .ok ⟨.sqlite, .ofDriver wornDriver, none⟩ ∧
      pagedQuery.toSet = .ok pagedSet ∧
      (∀ history sql, wornDriver.queryRows history sql = wornAnswer sql) ∧
      LimitedQuery wornReport pagedSet
        (connected (.sqlite "shop.db") wornShop ⟨.sqlite, .ofDriver wornDriver, none⟩) .sqlite
        wornAnswer :=
  ⟨rfl, rfl, rfl, fun _ _ => rfl, limitedQuery_of_answers rfl rfl rfl fun _ _ => rfl⟩

-- the second page is needed for all widgets, and not for the first two
example : (wornReport none .csv).failure.isSome ∧
    (wornReport (some 2) .csv).output = "id,name\n1,nut\n2,bolt\n" := by
  decide +kernel

end RecordAccess.CommandLine
