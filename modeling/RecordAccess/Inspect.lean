import RecordAccess.RecordSet.Paging
/-!
# Inspection

The texts by which values, records and record sets are shown to a programmer, with the kind of every
value.
-/

namespace RecordAccess.Inspect

/--
Numbers always have a point or an exponent; an exponent stands where the first digit is beyond the
sixteenth place before or the fourth after the point.
-/
def floatFormat : FloatFormat where
  tie := .away
  positional e := decide (-4 ≤ e) && decide (e ≤ 15)
  pointZero := true
  plusSign := false
  nan := "NaN"
  infinity := "inf"

/-- A character as it stands within a quoted text. -/
def escapeChar (c : Char) : List Char :=
  if c = '"' then ['\\', '"']
  else if c = '\\' then ['\\', '\\']
  else if c = '\n' then ['\\', 'n']
  else if c = '\r' then ['\\', 'r']
  else if c = '\t' then ['\\', 't']
  else if c.toNat = 0 then ['\\', '0']
  else if c.toNat < 0x20 ∨ c.toNat = 0x7F then
    ['\\', 'u', '\x7b'] ++ Nat.toDigits 16 c.toNat ++ ['\x7d']
  else [c]

/-- A text between quotes. -/
def quoted (text : String) : String :=
  String.ofList ('"' :: (text.toList.flatMap escapeChar ++ ['"']))

/-- The text of a value, with its kind. -/
def value : Value → String
  | .null => "Null"
  | .bool b => "Bool(" ++ (if b then "true" else "false") ++ ")"
  | .int n => "Int(" ++ integerText n.toInt ++ ")"
  | .float x => "Float(" ++ floatFormat.text x ++ ")"
  | .text s => "String(" ++ quoted s ++ ")"
  | .dateTime s => "DateTime(" ++ quoted s ++ ")"
  | .binary bytes =>
    "Binary([" ++ joinTexts ", " (bytes.map fun b => naturalText b.toNat) ++ "])"

/-- The text of an ordered map. -/
def entries {α : Type} (text : α → String) (m : OrderedMap α) : String :=
  "\x7b" ++ joinTexts ", " (m.entries.map fun (key, a) => quoted key ++ ": " ++ text a) ++ "\x7d"

/-- The name of a direction. -/
def direction : Direction → String
  | .asc => "Asc"
  | .desc => "Desc"

/-- A named structure with its fields. -/
def fields (name : String) (fields : List (String × String)) : String :=
  name ++ " \x7b " ++ joinTexts ", " (fields.map fun (field, text) => field ++ ": " ++ text)
    ++ " \x7d"

/-- The text of a record: its stored row and its changes. -/
def record (r : Record) : String :=
  fields "Record" [
    ("table", quoted r.table),
    ("persisted", entries value r.persisted),
    ("overlay", entries value r.overlay)]

/-- The text of a record set: its specification and the number of rows, if counted. -/
def recordSet (set : RecordSet) : String :=
  fields "RecordSet" [
    ("table", quoted set.table),
    ("filters", "Filters(" ++ entries value set.filters ++ ")"),
    ("sorts", "Sorts(" ++ entries direction set.sorts ++ ")"),
    ("page_size", naturalText set.pageSize),
    ("total_count", match set.total with
      | some n => "Some(" ++ naturalText n ++ ")"
      | none => "None")]

end RecordAccess.Inspect
