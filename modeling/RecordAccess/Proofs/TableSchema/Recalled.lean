import Mathlib.Tactic.Common
import RecordAccess.Proofs.Json.Canonical
import RecordAccess.Proofs.Number.Numeral
import RecordAccess.TableSchema.Json

/-!
# Schemas that were kept

A schema that is kept as a canonical JSON value and read again has the same columns by name, sorted by
their names. Of a column, bounds and defaults are lost that JSON has no number for, and a date becomes
text (`Column.recalled`, with `ofJson?_canonical_toJson`). So `recalled_eq_iff` tells which schemas
come back as they were.
-/

namespace RecordAccess
open Json

/-- From an object with distinct keys the fields are read that stand under their names. -/
lemma fields?_canonical_object {members : List (String × Json)}
    (h : (members.map Prod.fst).Nodup) (names : List String) :
    (object members).canonical.fields? names =
      some fun name => (Entries.get? name members).map canonical := by
  have hmember := member?_canonical_object h
  rw [canonical] at hmember ⊢
  simp only [fields?, hmember]

/-- A value that may be missing is the same after a change that leaves it. -/
lemma bind_eq_self_iff {α : Type} {o : Option α} {f : α → Option α} :
    o.bind f = o ↔ ∀ a, o = some a → f a = some a := by
  cases o with
  | none => simp
  | some a => simp

namespace Value

/-- The default that is read for a value that was kept as one. -/
def recalled? : Value → Option Value
  | null => none
  | float x => if x.isFinite then some (float x) else none
  | dateTime s => some (text s)
  | binary bytes => some (text ("0x" ++ Hex.encode bytes))
  | value => some value

/-- A value that is read as it was kept. -/
def Survives : Value → Prop
  | float x => x.isFinite = true
  | bool _ => True
  | int _ => True
  | text _ => True
  | _ => False

/-- A default is read as it was kept if it survives. -/
lemma recalled?_eq_some_iff {v : Value} : v.recalled? = some v ↔ v.Survives := by
  cases v with
  | float x => cases h : x.isFinite <;> simp [recalled?, Survives, h]
  | _ => simp [recalled?, Survives]

/-- What is read for a value, in the place of one that may be missing. -/
lemma optional?_toJson (v : Value) :
    optional? (fun json => some (ofJson json)) (some v.toJson.canonical) = some v.recalled? := by
  cases v with
  | null => rfl
  | bool b => rfl
  | int n =>
    have hread : ofJson (.int n.toInt) = int n := by
      rw [ofJson, int64?_toInt]
    exact congrArg (fun v => some (some v)) hread
  | float x =>
    cases hfinite : x.isFinite with
    | true => simp [toJson, ofBinary64, hfinite, canonical, optional?, recalled?, ofJson]
    | false => simp [toJson, ofBinary64, hfinite, canonical, optional?, recalled?]
  | text s => rfl
  | dateTime s => rfl
  | binary bytes => rfl

end Value

namespace Column

/-- The bound that is read for one that was kept. -/
def recalledBound? (x : Binary64) : Option Binary64 := if x.isFinite then some x else none

/-- The column that is read for one that was kept. -/
def recalled (c : Column) : Column :=
  { c with
    min := c.min.bind recalledBound?
    max := c.max.bind recalledBound?
    initial := c.initial.bind Value.recalled? }

/-- A column that is read as it was kept. -/
structure Survives (c : Column) : Prop where
  min : ∀ x, c.min = some x → x.isFinite = true
  max : ∀ x, c.max = some x → x.isFinite = true
  initial : ∀ v, c.initial = some v → v.Survives

/-- A bound is read as it was kept if it is finite. -/
lemma recalledBound?_eq_some_iff {x : Binary64} :
    recalledBound? x = some x ↔ x.isFinite = true := by
  simp [recalledBound?]

/-- A column is read as it was kept if it survives. -/
lemma recalled_eq_iff {c : Column} : c.recalled = c ↔ c.Survives := by
  constructor
  · intro h
    have hmin := bind_eq_self_iff.1 (congrArg Column.min h)
    have hmax := bind_eq_self_iff.1 (congrArg Column.max h)
    have hinitial := bind_eq_self_iff.1 (congrArg Column.initial h)
    exact ⟨fun x hx => recalledBound?_eq_some_iff.1 (hmin x hx),
      fun x hx => recalledBound?_eq_some_iff.1 (hmax x hx),
      fun v hv => Value.recalled?_eq_some_iff.1 (hinitial v hv)⟩
  · rintro ⟨hmin, hmax, hinitial⟩
    rw [recalled, bind_eq_self_iff.2 fun x hx => recalledBound?_eq_some_iff.2 (hmin x hx),
      bind_eq_self_iff.2 fun x hx => recalledBound?_eq_some_iff.2 (hmax x hx),
      bind_eq_self_iff.2 fun v hv => Value.recalled?_eq_some_iff.2 (hinitial v hv)]

/-- A logical type is read by its name. -/
lemma ofJson?_name (type : LogicalType) : LogicalType.ofJson? (.string type.name) = some type := by
  cases type <;> decide

/-- What may be missing is read as what becomes of each value. -/
lemma optional?_ofOption {α : Type} {encode : α → Json} {read : Json → Option α}
    {f : α → Option α}
    (h : ∀ a, optional? read (some (encode a).canonical) = some (f a)) (o : Option α) :
    optional? read (some (ofOption encode o).canonical) = some (o.bind f) := by
  cases o with
  | none => rfl
  | some a => exact h a

/-- A bound that was kept is read if it is finite. -/
lemma optional?_ofBinary64 (x : Binary64) :
    optional? asFloat? (some (ofBinary64 x).canonical) = some (recalledBound? x) := by
  cases h : x.isFinite <;> simp [ofBinary64, h, canonical, optional?, asFloat?, recalledBound?]

/-- A natural number that was kept is read. -/
lemma optional?_ofNat (n : Nat) :
    optional? asNatural? (some (Json.int n).canonical) = some (some n) := by
  simp [canonical, optional?, asNatural?]

/-- The members of the JSON object of a column. -/
def members (c : Column) : List (String × Json) := [
  ("name", .string c.name),
  ("logical_type", .string c.logicalType.name),
  ("length", .ofOption (fun (n : Nat) => .int n) c.length),
  ("min", .ofOption .ofBinary64 c.min),
  ("max", .ofOption .ofBinary64 c.max),
  ("default", .ofOption Value.toJson c.initial),
  ("native_type", .string c.nativeType)]

/-- The members of a column have distinct keys. -/
lemma nodup_members (c : Column) : (c.members.map Prod.fst).Nodup := by
  have hnames : c.members.map Prod.fst = memberNames := rfl
  rw [hnames]
  decide

/-- A column is read back as far as JSON has its parts. -/
lemma ofJson?_canonical_toJson (c : Column) : ofJson? c.toJson.canonical = some c.recalled := by
  have hjson : c.toJson = .object c.members := rfl
  have hlength := optional?_ofOption optional?_ofNat c.length
  have hmin := optional?_ofOption optional?_ofBinary64 c.min
  have hmax := optional?_ofOption optional?_ofBinary64 c.max
  have hinitial := optional?_ofOption Value.optional?_toJson c.initial
  rw [hjson, ofJson?, fields?_canonical_object c.nodup_members]
  simp [members, Entries.get?, canonical, asString?, ofJson?_name, hlength, hmin, hmax, hinitial,
    recalled]

end Column

/-- A kept map has its entries by key, each in canonical form. -/
lemma OrderedMap.canonical_toJson {α : Type} (encode : α → Json) (m : OrderedMap α) :
    (m.toJson encode).canonical =
      .object (m.byKey.entries.map fun (key, value) => (key, (encode value).canonical)) := by
  have hdistinct : ((m.entries.map fun (key, value) => (key, encode value)).map Prod.fst).Nodup := by
    simpa [Function.comp_def] using m.distinct
  have hsorted := Entries.map_byKey (fun (key, value) => (key, (encode value).canonical))
    (fun _ => rfl) m.entries
  rw [toJson, canonical_object hdistinct, List.map_map]
  exact congrArg Json.object hsorted.symm

namespace TableSchema

/-- The schema that is read for one that was kept: the columns by name. -/
def recalled (schema : TableSchema) : TableSchema where
  name := schema.name
  columns := schema.columns.byKey.mapEntries fun _ c => c.recalled

/-- A schema that is read as it was kept: its columns are in the order of their names, and each is
read as it was kept. -/
structure Survives (schema : TableSchema) : Prop where
  increasing : Entries.Increasing schema.columns.entries
  columns : ∀ c ∈ schema.columns.values, c.Survives

/-- A column of a recalled schema is the recalled column of that name. -/
lemma column?_recalled (schema : TableSchema) (name : String) :
    schema.recalled.column? name = (schema.column? name).map Column.recalled := by
  simp [column?, recalled]

/-- A schema is read as it was kept if it survives. -/
lemma recalled_eq_iff {schema : TableSchema} : schema.recalled = schema ↔ schema.Survives := by
  have hvalues : (schema.columns.mapEntries fun _ c => c.recalled) = schema.columns ↔
      ∀ c ∈ schema.columns.values, c.Survives := by
    rw [OrderedMap.mapEntries_eq_self_iff]
    exact forall₂_congr fun c _ => Column.recalled_eq_iff
  constructor
  · intro h
    have hcolumns : (schema.columns.byKey.mapEntries fun _ c => c.recalled) = schema.columns :=
      congrArg TableSchema.columns h
    have hkeys : schema.columns.byKey.keys = schema.columns.keys := by
      rw [← OrderedMap.keys_mapEntries (fun _ (c : Column) => c.recalled), hcolumns]
    have hincreasing := OrderedMap.increasing_of_keys_eq hkeys
      (Entries.increasing_byKey schema.columns.distinct)
    rw [OrderedMap.byKey_eq_self_iff.2 hincreasing] at hcolumns
    exact ⟨hincreasing, hvalues.1 hcolumns⟩
  · rintro ⟨hincreasing, hcolumns⟩
    rw [recalled, OrderedMap.byKey_eq_self_iff.2 hincreasing, hvalues.2 hcolumns]

/-- Columns are read from the members that were kept for them. -/
lemma columnsOfMembers?_map (entries : List (String × Column)) :
    columnsOfMembers? (entries.map fun (name, c) => (name, c.toJson.canonical)) =
      some (entries.map fun (name, c) => (name, c.recalled)) := by
  induction entries with
  | nil => rfl
  | cons e rest ih =>
    obtain ⟨name, c⟩ := e
    simp [columnsOfMembers?, Column.ofJson?_canonical_toJson, ih]

/-- A schema is read back as far as JSON has its parts. -/
lemma ofJson?_canonical_toJson (schema : TableSchema) :
    ofJson? schema.toJson.canonical = some schema.recalled := by
  have hread : columnsOfJson? (schema.columns.toJson Column.toJson).canonical =
      some schema.recalled.columns := by
    rw [OrderedMap.canonical_toJson, columnsOfJson?, columnsOfMembers?_map]
    exact congrArg some schema.recalled.columns.ofList_entries
  have hdistinct : ([("name", string schema.name),
      ("columns", schema.columns.toJson Column.toJson)].map Prod.fst).Nodup := by
    simp
  rw [toJson, ofJson?, fields?_canonical_object hdistinct]
  simp [Entries.get?, canonical, asString?, hread]
  rfl

end TableSchema
end RecordAccess
