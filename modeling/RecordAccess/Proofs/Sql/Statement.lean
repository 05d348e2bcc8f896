import Mathlib.Data.List.Forall2
import Mathlib.Tactic.Common
import RecordAccess.Select
import RecordAccess.Proofs.Sql.Lexer
import RecordAccess.Proofs.Text.Parts

/-!
# The tokens of the statements

What the statements of a query consist of, as lists of tokens over the filters and sorts that the
query was compiled from, and the proof that the backend reads just these tokens in their texts. A
name or a value that a caller gave is the content of one token there, whatever characters it has, and
the keywords and marks around it do not depend on it. The mark of a comparison, the test for NULL and
the direction of a sort are told here for each comparator and direction, apart from what is printed.

Each part of a statement is read on its own (`tokens_columnName`, `tokens_join`, `tokens_condition`,
`tokens_fromClause`, …), from the parts that it is put together from. The headline
`statements_read_back` closes the file.
-/

namespace RecordAccess.Sql

/-- A column of a table that goes by a name. -/
def columnTokens (owner column : String) : List Token :=
  [.ofName owner, .mark ".", .ofName column]

/-- The column that a path means: that of its last table, which goes by the names of its chain, or of the
base table. -/
def pathTokens (base : String) (path : FieldPath) : List Token :=
  columnTokens (if path.chain = [] then base else "_".intercalate path.chain) path.column

/-- A table that is joined to the one before it in its chain. -/
def joinTokens (join : Join) : List Token :=
  .word "JOIN" :: .ofName join.table :: .word "AS" :: .ofName join.name :: .word "ON" ::
    (columnTokens join.name (join.parentTable ++ "_id") ++
      .mark "=" :: columnTokens join.parentName "id")

/-- A comparison with NULL: what differs from it, or is greater, is present. -/
def nullTokens : Comparator → List Token
  | .eq => [.word "IS", .word "NULL"]
  | .lt => [.word "IS", .word "NULL"]
  | .le => [.word "IS", .word "NULL"]
  | .ne => [.word "IS", .word "NOT", .word "NULL"]
  | .gt => [.word "IS", .word "NOT", .word "NULL"]
  | .ge => [.word "IS", .word "NOT", .word "NULL"]

/-- The mark of a comparison with a text. -/
def comparisonMark : Comparator → String
  | .eq => "="
  | .ne => "!="
  | .lt => "<"
  | .le => "<="
  | .gt => ">"
  | .ge => ">="

/-- The condition of a filter. -/
def filterTokens (base key : String) (value : Value) : List Token :=
  let (comparator, path) := Comparator.split key
  pathTokens base (.ofText path) ++
    if value = .null then nullTokens comparator
    else [.mark (comparisonMark comparator), .ofText value.sqlText]

/-- The word for a direction. -/
def directionWord : Direction → String
  | .asc => "ASC"
  | .desc => "DESC"

/-- The column and direction of a sort. -/
def sortTokens (base key : String) (direction : Direction) : List Token :=
  pathTokens base (.ofText key) ++ [.word (directionWord direction)]

/-- The conditions, all of which a row has to meet. -/
def whereTokens (conditions : List (List Token)) : List Token :=
  if conditions.isEmpty then [] else .word "WHERE" :: [.word "AND"].intercalate conditions

/-- The tables and conditions of a query. -/
def sourceTokens (base : String) (joins : List Join) (filters : Filters) : List Token :=
  .word "FROM" :: .ofName base :: (joins.flatMap joinTokens ++
    whereTokens (filters.entries.map fun (key, value) => filterTokens base key value))

/-- The word that merges equal rows, where they are to be merged. -/
def distinctTokens (merged : Bool) : List Token := if merged then [.word "DISTINCT"] else []

/-- What is counted: rows that are distinct if any table is joined. -/
def countTokens (base : String) (joins : List Join) : List Token :=
  .word "SELECT" :: .word "COUNT" :: .mark "(" :: (distinctTokens (!joins.isEmpty) ++
    (columnTokens base "id" ++ [.mark ")", .word "AS", .ofName "count"]))

/-- What is fetched. -/
def rowTokens (base : String) (dedup : Dedup) : List Token :=
  .word "SELECT" :: (distinctTokens (dedup = .distinct) ++ [.ofName base, .mark ".", .mark "*"])

/-- The order: that of the sorts, and then by identity. -/
def orderTokens (base : String) (sorts : Sorts) : List Token :=
  let items := sorts.entries.map fun (key, direction) => sortTokens base key direction
  let last := columnTokens base "id" ++ [.word "ASC"]
  .word "ORDER" :: .word "BY" :: [.mark ","].intercalate (items ++ [last])

/-- The part of the rows wanted. -/
def windowTokens (backend : Backend) (limit offset : Nat) : List Token :=
  match backend with
  | .sqlite => [.word "LIMIT", .number limit, .word "OFFSET", .number offset]
  | .sqlServer =>
    [.word "OFFSET", .number offset, .word "ROWS", .word "FETCH", .word "NEXT", .number limit,
      .word "ROWS", .word "ONLY"]

/-- The condition that an identity has a row, which none has that is not positive. -/
def identityTokens (backend : Backend) (table : String) (id : Int64) : List Token :=
  if 0 < id.toInt then columnTokens table "id" ++ [.mark "=", .number id.toInt.toNat]
  else
    match backend with
    | .sqlite => [.word "FALSE"]
    | .sqlServer => [.number 1, .mark "=", .number 0]

/-- The statement that fetches one row. -/
def recordTokens (backend : Backend) (table : String) (id : Int64) : List Token :=
  match backend with
  | .sqlite =>
    .word "SELECT" :: .mark "*" :: .word "FROM" :: .ofName table :: .word "WHERE" ::
      (identityTokens .sqlite table id ++ [.word "LIMIT", .number 1])
  | .sqlServer =>
    .word "SELECT" :: .word "TOP" :: .number 1 :: .mark "*" :: .word "FROM" :: .ofName table ::
      .word "WHERE" :: identityTokens .sqlServer table id

/-- A text that can stand between any others: it is read on its own, and a delimiter stands at each
of its ends. -/
structure Separates (b : Backend) (sep : String) (ks : List Token) : Prop where
  reads : tokens b sep = some ks
  starts : startsDelimited sep
  ends : endsDelimited sep

/-- A separator is read on its own between two texts. -/
lemma Separates.parted {b : Backend} {x sep y : String} {ts ks us : List Token}
    (hsep : Separates b sep ks) (hx : tokens b x = some ts) (hy : tokens b y = some us) :
    tokens b (x ++ sep ++ y) = some (ts ++ ks ++ us) :=
  tokens_append (tokens_append hx hsep.reads (.inr hsep.starts)) hy
    (.inl (endsDelimited_append hsep.ends))

/-- Texts with a separator between them are read one after another. -/
lemma Separates.joinTexts {b : Backend} {sep : String} {ks : List Token} {xs : List String}
    {tss : List (List Token)} (hsep : Separates b sep ks)
    (h : List.Forall₂ (fun x ts => tokens b x = some ts) xs tss) :
    tokens b (joinTexts sep xs) = some (ks.intercalate tss) := by
  induction h with
  | nil => rfl
  | @cons x ts xs tss hx htail ih =>
    cases htail with
    | nil => simpa [RecordAccess.joinTexts, List.intercalate_singleton] using hx
    | cons hy htail =>
      rw [List.intercalate_cons_cons]
      simpa [RecordAccess.joinTexts] using hsep.parted hx ih

/-- A blank separates two tokens. -/
lemma separates_blank (b : Backend) : Separates b " " [] := by
  cases b <;> exact ⟨rfl, rfl, rfl⟩

/-- A line feed separates two tokens. -/
lemma separates_line (b : Backend) : Separates b "\n" [] := by
  cases b <;> exact ⟨rfl, rfl, rfl⟩

/-- A dot between two tokens is a token of its own. -/
lemma separates_dot (b : Backend) : Separates b "." [.mark "."] := by
  cases b <;> exact ⟨rfl, rfl, rfl⟩

/-- An equals sign between blanks is a token of its own. -/
lemma separates_equality (b : Backend) : Separates b " = " [.mark "="] := by
  cases b <;> exact ⟨rfl, rfl, rfl⟩

/-- A list of texts is read by reading each. -/
lemma forall₂_tokens {α : Type} {b : Backend} {f : α → String} {g : α → List Token}
    (h : ∀ a, tokens b (f a) = some (g a)) (as : List α) :
    List.Forall₂ (fun x ts => tokens b x = some ts) (as.map f) (as.map g) := by
  induction as with
  | nil => exact .nil
  | cons a as ih => exact .cons (h a) ih

/-- A column is read as its table's name, a dot and its own. -/
lemma tokens_columnName (b : Backend) (c : ColumnName) :
    tokens b (c.sql b) = some (columnTokens c.owner c.column) :=
  (separates_dot b).parted (tokens_quoteName b c.owner) (tokens_quoteName b c.column)

/-- A path is read as the column that it means. -/
lemma tokens_ofPath (b : Backend) (base : String) (path : FieldPath) :
    tokens b ((ColumnName.ofPath base path).sql b) = some (pathTokens base path) := by
  have howner : (ColumnName.ofPath base path).owner =
      if path.chain = [] then base else "_".intercalate path.chain := by
    rw [ColumnName.ofPath, FieldPath.joinName?, FieldPath.isJoined, FieldPath.chainName, joinTexts_eq]
    cases path.chain <;> rfl
  rw [tokens_columnName, howner]
  rfl

/-- The text of a join has the tokens of its table, its name and the columns that tie it. -/
lemma tokens_join (b : Backend) (j : Join) : tokens b (j.sql b) = some (joinTokens j) := by
  have hjoin : tokens b "JOIN " = some [.word "JOIN"] := by cases b <;> rfl
  have has : Separates b " AS " [.word "AS"] := by cases b <;> exact ⟨rfl, rfl, rfl⟩
  have hon : Separates b " ON " [.word "ON"] := by cases b <;> exact ⟨rfl, rfl, rfl⟩
  -- from left to right, a separator and the next name at a time
  have h₁ := tokens_append hjoin (tokens_quoteName b j.table) (.inl rfl)
  have h₂ := has.parted h₁ (tokens_quoteName b j.name)
  have h₃ := hon.parted h₂ (tokens_quoteName b j.name)
  have h₄ := (separates_dot b).parted h₃ (tokens_quoteName b (j.parentTable ++ "_id"))
  have h₅ := (separates_equality b).parted h₄ (tokens_quoteName b j.parentName)
  have h₆ := (separates_dot b).parted h₅ (tokens_quoteName b "id")
  exact h₆

/-- The text of a test for NULL has the words that the comparator asks for. -/
lemma tokens_nullTest (b : Backend) (c : Comparator) :
    tokens b c.nullTest = some (nullTokens c) := by
  cases b <;> cases c <;> rfl

/-- A comparator between blanks is a token of its own. -/
lemma separates_comparator (b : Backend) (c : Comparator) :
    Separates b (" " ++ c.sql ++ " ") [.mark (comparisonMark c)] := by
  cases b <;> cases c <;> exact ⟨rfl, rfl, rfl⟩

/-- Only the null is null. -/
lemma isNull_eq_false {value : Value} (h : value ≠ .null) : value.isNull = false := by
  cases value with
  | null => exact absurd rfl h
  | _ => rfl

/-- The text of a condition has the tokens of the filter. -/
lemma tokens_condition (b : Backend) (base key : String) (value : Value) :
    tokens b ((Condition.ofFilter base key value).sql b) = some (filterTokens base key value) := by
  have hcolumn := tokens_ofPath b base (.ofText (Comparator.split key).2)
  by_cases hv : value = .null
  · have hnull := tokens_nullTest b (Comparator.split key).1
    simpa [Condition.ofFilter, Condition.sql, filterTokens, Value.isNull, hv] using
      (separates_blank b).parted hcolumn hnull
  · have hliteral := tokens_quoteLiteral b value.sqlText
    have hpresent : value.isNull = false := isNull_eq_false hv
    simpa [Condition.ofFilter, Condition.sql, filterTokens, hv, hpresent, String.append_assoc] using
      (separates_comparator b (Comparator.split key).1).parted hcolumn hliteral

/-- The text of an item of the order has the tokens of the sort. -/
lemma tokens_orderItem (b : Backend) (base key : String) (direction : Direction) :
    tokens b ((OrderItem.ofSort base key direction).sql b) = some (sortTokens base key direction) := by
  have hdirection : tokens b direction.sql = some [.word (directionWord direction)] := by
    cases b <;> cases direction <;> rfl
  simpa [OrderItem.ofSort, OrderItem.sql, sortTokens] using
    (separates_blank b).parted (tokens_ofPath b base (.ofText key)) hdirection

/-- The text of a window has the tokens with its limit and offset. -/
lemma tokens_window (b : Backend) (limit offset : Nat) :
    tokens b (b.window limit offset) = some (windowTokens b limit offset) := by
  cases b with
  | sqlite =>
    have hlimit : tokens .sqlite "LIMIT " = some [.word "LIMIT"] := rfl
    have hoffset : Separates .sqlite " OFFSET " [.word "OFFSET"] := ⟨rfl, rfl, rfl⟩
    have h₁ := tokens_append hlimit (tokens_naturalText .sqlite limit) (.inl rfl)
    exact hoffset.parted h₁ (tokens_naturalText .sqlite offset)
  | sqlServer =>
    have hoffset : tokens .sqlServer "OFFSET " = some [.word "OFFSET"] := rfl
    have hnext : Separates .sqlServer " ROWS FETCH NEXT "
        [.word "ROWS", .word "FETCH", .word "NEXT"] := ⟨rfl, rfl, rfl⟩
    have honly : tokens .sqlServer " ROWS ONLY" = some [.word "ROWS", .word "ONLY"] := rfl
    have h₁ := tokens_append hoffset (tokens_naturalText .sqlServer offset) (.inl rfl)
    have h₂ := hnext.parted h₁ (tokens_naturalText .sqlServer limit)
    exact tokens_append h₂ honly (.inr rfl)

/-- Nothing between lists leaves them one after another. -/
lemma intercalate_nil_left {α : Type} (xss : List (List α)) : [].intercalate xss = xss.flatten := by
  induction xss with
  | nil => rfl
  | cons xs xss ih =>
    cases xss with
    | nil => simp [List.intercalate_singleton]
    | cons ys xss => rw [List.intercalate_cons_cons, ih]; simp

section Statements
variable (b : Backend) (table : String) (filters : Filters) (sorts : Sorts)

/-- The base table and the joins, on lines of their own, have the tokens of each. -/
lemma tokens_tables (base : String) (joins : List Join) :
    tokens b (joinTexts "\n" (("FROM " ++ b.quoteName base) :: joins.map fun j => j.sql b)) =
      some (.word "FROM" :: .ofName base :: joins.flatMap joinTokens) := by
  have hfrom : tokens b "FROM " = some [.word "FROM"] := by cases b <;> rfl
  have hbase := tokens_append hfrom (tokens_quoteName b base) (.inl rfl)
  have h := (separates_line b).joinTexts (.cons hbase (forall₂_tokens (tokens_join b) joins))
  -- the line ends between the clauses are no tokens
  rw [intercalate_nil_left] at h
  simpa [List.flatMap_def] using h

/-- The tables and conditions, which the statements of a query share. -/
lemma tokens_fromClause :
    tokens b (Select.compile b table filters sorts).fromClause =
      some (sourceTokens (lowercase table) (Select.compile b table filters sorts).joins filters) := by
  have htables := tokens_tables b (lowercase table) (Select.compile b table filters sorts).joins
  have hconditions := forall₂_tokens
    (f := fun e : String × Value => (Condition.ofFilter (lowercase table) e.1 e.2).sql b)
    (g := fun e => filterTokens (lowercase table) e.1 e.2)
    (fun e => tokens_condition b (lowercase table) e.1 e.2) filters.entries
  have hand : Separates b "\n\tAND " [.word "AND"] := by cases b <;> exact ⟨rfl, rfl, rfl⟩
  have hwhere : Separates b "\nWHERE " [.word "WHERE"] := by cases b <;> exact ⟨rfl, rfl, rfl⟩
  have hparted := hwhere.parted htables (hand.joinTexts hconditions)
  -- without a filter there is no WHERE to part the conditions from the tables
  by_cases he : filters.entries = []
  · simpa [Select.fromClause, Select.compile, sourceTokens, whereTokens, he] using htables
  · simpa [Select.fromClause, Select.compile, sourceTokens, whereTokens, he,
      Function.comp_def] using hparted

/-- The text of the order has the tokens of the sorts, and of the identity at the end. -/
lemma tokens_order :
    tokens b ("\nORDER BY " ++ joinTexts ", "
        (((Select.compile b table filters sorts).order ++
          [OrderItem.mk (Select.compile b table filters sorts).idColumn .asc]).map (·.sql b))) =
      some (orderTokens (lowercase table) sorts) := by
  have hsorts := forall₂_tokens
    (f := fun e : String × Direction => (OrderItem.ofSort (lowercase table) e.1 e.2).sql b)
    (g := fun e => sortTokens (lowercase table) e.1 e.2)
    (fun e => tokens_orderItem b (lowercase table) e.1 e.2) sorts.entries
  have hasc : tokens b "ASC" = some [.word "ASC"] := by cases b <;> rfl
  have hid := (separates_blank b).parted (tokens_columnName b ⟨lowercase table, "id"⟩) hasc
  have hcomma : Separates b ", " [.mark ","] := by cases b <;> exact ⟨rfl, rfl, rfl⟩
  have hby : tokens b "\nORDER BY " = some [.word "ORDER", .word "BY"] := by cases b <;> rfl
  have hitems := hcomma.joinTexts (List.rel_append hsorts (.cons hid .nil))
  have h := tokens_append hby hitems (.inl rfl)
  simpa [Select.compile, Select.idColumn, OrderItem.sql, Direction.sql, orderTokens,
    Function.comp_def] using h

end Statements

/-- The counting statement has the tokens of the count before those of its source. -/
lemma tokens_countSql {s : Select} {source : List Token}
    (hsource : tokens s.backend s.fromClause = some source) :
    tokens s.backend s.countSql = some (countTokens s.table s.joins ++ source) := by
  have hhead : tokens s.backend ("SELECT COUNT(" ++ if s.isJoined then "DISTINCT " else "") =
      some (.word "SELECT" :: .word "COUNT" :: .mark "(" :: distinctTokens s.isJoined) := by
    cases s.backend <;> cases s.isJoined <;> rfl
  have hend : endsDelimited ("SELECT COUNT(" ++ if s.isJoined then "DISTINCT " else "") := by
    cases s.isJoined <;> rfl
  have has : Separates s.backend ") AS " [.mark ")", .word "AS"] := by
    cases s.backend <;> exact ⟨rfl, rfl, rfl⟩
  have h₁ := tokens_append hhead (tokens_columnName s.backend s.idColumn) (.inl hend)
  have h₂ := has.parted h₁ (tokens_quoteName s.backend "count")
  have h₃ := (separates_line s.backend).parted h₂ hsource
  refine h₃.trans ?_
  simp [countTokens, Select.idColumn, Select.isJoined]

/-- The statement of a window, whatever its first words are. -/
lemma tokens_rows {s : Select} {head orderText : String} {ts source order : List Token}
    (limit offset : Nat) (hhead : tokens s.backend head = some ts) (hend : endsDelimited head)
    (hsource : tokens s.backend s.fromClause = some source)
    (horder : tokens s.backend ("\nORDER BY " ++ orderText) = some order) :
    tokens s.backend (head ++ s.backend.quoteName s.table ++ ".*\n" ++ s.fromClause
        ++ "\nORDER BY " ++ orderText ++ "\n" ++ s.backend.window limit offset) =
      some (ts ++ [.ofName s.table, .mark ".", .mark "*"] ++ source ++ order
        ++ windowTokens s.backend limit offset) := by
  have hall : Separates s.backend ".*\n" [.mark ".", .mark "*"] := by
    cases s.backend <;> exact ⟨rfl, rfl, rfl⟩
  have h₁ := tokens_append hhead (tokens_quoteName s.backend s.table) (.inl hend)
  have h₂ := hall.parted h₁ hsource
  -- the order starts with its own line end, so that no separator stands before it
  have h₃ := tokens_append h₂ horder (.inr (startsDelimited_append rfl))
  rw [← String.append_assoc] at h₃
  have h₄ := (separates_line s.backend).parted h₃ (tokens_window s.backend limit offset)
  rw [h₄]
  simp

/-- The statement for a page has the tokens of its rows, its source, its order and its window. -/
lemma tokens_pageSql {s : Select} {source order : List Token} (limit offset : Nat) (dedup : Dedup)
    (hsource : tokens s.backend s.fromClause = some source)
    (horder : tokens s.backend ("\nORDER BY " ++ joinTexts ", "
      ((s.order ++ [OrderItem.mk s.idColumn .asc]).map (·.sql s.backend))) = some order) :
    tokens s.backend (s.pageSql limit offset dedup) =
      some (rowTokens s.table dedup ++ source ++ order ++ windowTokens s.backend limit offset) := by
  cases dedup with
  | none =>
    have hhead : tokens s.backend ("SELECT " ++ "") = some [.word "SELECT"] := by
      cases s.backend <;> rfl
    exact tokens_rows limit offset hhead rfl hsource horder
  | distinct =>
    have hhead : tokens s.backend ("SELECT " ++ "DISTINCT ") =
        some [.word "SELECT", .word "DISTINCT"] := by
      cases s.backend <;> rfl
    exact tokens_rows limit offset hhead rfl hsource horder

/-- The text of a test for an identity has its tokens, or of a condition that is never met if there is no such identity. -/
lemma tokens_identity (b : Backend) (table : String) (id : Int64) :
    tokens b (if id.toInt ≤ 0 then b.falseCondition
      else (ColumnName.mk table "id").sql b ++ " = " ++ integerText id.toInt) =
      some (identityTokens b table id) := by
  unfold identityTokens
  by_cases hid : id.toInt ≤ 0
  · rw [if_pos hid, if_neg (Int.not_lt.2 hid)]
    cases b <;> rfl
  · have hnumber : integerText id.toInt = naturalText id.toInt.toNat := by
      simp [integerText, show ¬ id.toInt < 0 by omega, show id.toInt.natAbs = id.toInt.toNat by omega]
    rw [if_neg hid, if_pos (Int.not_le.1 hid), hnumber]
    exact (separates_equality b).parted (tokens_columnName b ⟨table, "id"⟩)
      (tokens_naturalText b id.toInt.toNat)

/-- The statement for a record has the tokens of the table's row with the identity. -/
lemma tokens_recordSql (b : Backend) (table : String) (id : Int64) :
    tokens b (recordSql b table id) = some (recordTokens b table id) := by
  have hidentity := tokens_identity b table id
  cases b with
  | sqlite =>
    have hselect : tokens .sqlite "SELECT * FROM " =
        some [.word "SELECT", .mark "*", .word "FROM"] := rfl
    have hwhere : Separates .sqlite " WHERE " [.word "WHERE"] := ⟨rfl, rfl, rfl⟩
    have hlimit : tokens .sqlite " LIMIT 1" = some [.word "LIMIT", .number 1] := rfl
    have h₁ := tokens_append hselect (tokens_quoteName .sqlite table) (.inl rfl)
    have h₂ := hwhere.parted h₁ hidentity
    have h₃ := tokens_append h₂ hlimit (.inr rfl)
    exact h₃
  | sqlServer =>
    have hselect : tokens .sqlServer "SELECT TOP 1 * FROM " =
        some [.word "SELECT", .word "TOP", .number 1, .mark "*", .word "FROM"] := rfl
    have hwhere : Separates .sqlServer " WHERE " [.word "WHERE"] := ⟨rfl, rfl, rfl⟩
    have h₁ := tokens_append hselect (tokens_quoteName .sqlServer table) (.inl rfl)
    have h₂ := hwhere.parted h₁ hidentity
    exact h₂

section Differences
variable (b : Backend) (table : String) (filters : Filters) (sorts : Sorts) (limit : Nat)
  (dedup : Dedup)

/-- A statement that fetches rows is not the one that counts them. -/
lemma pageSql_ne_countSql (offset : Nat) :
    (Select.compile b table filters sorts).pageSql limit offset dedup ≠
      (Select.compile b table filters sorts).countSql := by
  intro heq
  have hcount := tokens_countSql (s := Select.compile b table filters sorts)
    (tokens_fromClause b table filters sorts)
  have hpage := tokens_pageSql (s := Select.compile b table filters sorts) limit offset dedup
    (tokens_fromClause b table filters sorts) (tokens_order b table filters sorts)
  -- after SELECT stands COUNT in the one, and never in the other
  rw [heq, hcount] at hpage
  cases dedup <;> simp [countTokens, rowTokens, distinctTokens, Token.ofName] at hpage

/-- A statement that fetches a window is not one that fetches the row of an identity. -/
lemma pageSql_ne_recordSql (offset : Nat) (name : String) (id : Int64) :
    (Select.compile b table filters sorts).pageSql limit offset dedup ≠ recordSql b name id := by
  intro heq
  have hpage := tokens_pageSql (s := Select.compile b table filters sorts) limit offset dedup
    (tokens_fromClause b table filters sorts) (tokens_order b table filters sorts)
  have hrecord : tokens (Select.compile b table filters sorts).backend (recordSql b name id) = _ :=
    tokens_recordSql b name id
  -- after SELECT stands the name of a table in the one, and never in the other
  rw [heq, hrecord] at hpage
  cases b <;> cases dedup <;>
    simp [recordTokens, rowTokens, distinctTokens, Token.ofName] at hpage

/-- Windows that start in different places are fetched by different statements. -/
lemma pageSql_injective :
    Function.Injective fun offset =>
      (Select.compile b table filters sorts).pageSql limit offset dedup := by
  intro m n heq
  have hpage (offset : Nat) :=
    tokens_pageSql (s := Select.compile b table filters sorts) limit offset dedup
      (tokens_fromClause b table filters sorts) (tokens_order b table filters sorts)
  have hm := hpage m
  simp only at heq
  rw [heq, hpage n] at hm
  -- all that stands before the windows is the same
  have hwindow : windowTokens b limit n = windowTokens b limit m :=
    List.append_cancel_left (Option.some.inj hm)
  cases b <;> simpa [windowTokens, eq_comm] using hwindow

end Differences

/-- Every statement reads back as what it should consist of, and the count and all windows of a
query share the tables and conditions. -/
theorem statements_read_back (b : Backend) (table : String) (filters : Filters) (sorts : Sorts) :
    let base := lowercase table
    let query := Select.compile b table filters sorts
    let source := sourceTokens base query.joins filters
    tokens b query.countSql = some (countTokens base query.joins ++ source) ∧
      (∀ limit offset dedup, tokens b (query.pageSql limit offset dedup) =
        some (rowTokens base dedup ++ source ++ orderTokens base sorts
          ++ windowTokens b limit offset)) ∧
      ∀ id, tokens b (recordSql b table id) = some (recordTokens b table id) := by
  intro base query source
  have hsource := tokens_fromClause b table filters sorts
  have horder := tokens_order b table filters sorts
  refine ⟨?_, ?_, tokens_recordSql b table⟩
  · exact tokens_countSql (s := Select.compile b table filters sorts) hsource
  · intro limit offset dedup
    exact tokens_pageSql (s := Select.compile b table filters sorts) limit offset dedup hsource horder

end RecordAccess.Sql
