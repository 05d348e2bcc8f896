import Mathlib.Data.List.Forall2
import Mathlib.Tactic.Common
import RecordAccess.Export

/-!
# Reading comma-separated values

The rules for comma-separated values are a reader of their own, which goes over a text character by
character and knows at each place what it is reading (`Place`). It is a strict one: a quote within a
bare field, anything but a comma or a line feed after a closing quote, a carriage return outside quotes
and a last record without its line feed are refused. An empty line holds no record.

What is written is followed through the reader from the inside out: a field (`reads_fieldChars`), the
fields of a record (`reads_fieldsChars`), a record (`reads_recordChars`) and all records
(`reads_records`). The last theorem is about rows: the exported text is read as the column names of the
first row and one record for each row (`readSeparated_csv`).
-/

namespace RecordAccess.Export

/-- Where in a field a reader is, with the characters read of it. -/
inductive Place where
  | start
  | bare (read : List Char)
  | quoted (read : List Char)
  /-- after a quote in a quoted field, which ends the field unless a second one follows -/
  | quote (read : List Char)

/-- What a reader has read: the records, the fields of the record it is in, and its place there. -/
structure Reading where
  records : List (List String)
  fields : List String
  place : Place

/-- The reading after a character that may end the field. -/
def Reading.close (r : Reading) (field : List Char) (c : Char) : Option Reading :=
  if c = ',' then some { r with fields := r.fields ++ [String.ofList field], place := .start }
  else if c = '\n' then
    some ⟨r.records ++ [r.fields ++ [String.ofList field]], [], .start⟩
  else none

/-- The reading after one more character. -/
def Reading.step (r : Reading) (c : Char) : Option Reading :=
  match r.place with
  | .start =>
    if c = '"' then some { r with place := .quoted [] }
    else if c = '\n' ∧ r.fields = [] then some r
    else if c = ',' ∨ c = '\n' ∨ c = '\r' then r.close [] c
    else some { r with place := .bare [c] }
  | .bare read =>
    if c = ',' ∨ c = '\n' ∨ c = '\r' ∨ c = '"' then r.close read c
    else some { r with place := .bare (read ++ [c]) }
  | .quoted read =>
    some { r with place := if c = '"' then .quote read else .quoted (read ++ [c]) }
  | .quote read =>
    if c = '"' then some { r with place := .quoted (read ++ [c]) } else r.close read c

/-- The records of a reading at the start of a line. -/
def Reading.finish? (r : Reading) : Option (List (List String)) :=
  match r.place with
  | .start => if r.fields = [] then some r.records else none
  | _ => none

/-- The reading after some characters. -/
def Reading.scan (r : Reading) (cs : List Char) : Option Reading := cs.foldlM Reading.step r

/-- The records of comma-separated values. -/
def readSeparated (text : String) : Option (List (List String)) :=
  ((Reading.mk [] [] .start).scan text.toList).bind Reading.finish?

/-- To scan nothing leaves the reading. -/
@[simp] lemma Reading.scan_nil (r : Reading) : r.scan [] = some r := rfl

/-- To scan a character and some more is to scan these after a step. -/
@[simp] lemma Reading.scan_cons (r : Reading) (c : Char) (cs : List Char) :
    r.scan (c :: cs) = (r.step c).bind fun r => r.scan cs := rfl

/-- To scan some characters and some more is to scan these after the others. -/
lemma Reading.scan_append (r : Reading) (cs ds : List Char) :
    r.scan (cs ++ ds) = (r.scan cs).bind fun r => r.scan ds := by
  simp only [Reading.scan, List.foldlM_append]
  rfl

variable (records : List (List String)) (fields : List String)

/-- Within quotes doubled quotes are read as single ones, and all else as it stands. -/
lemma scan_doubled (read cs : List Char) :
    (Reading.mk records fields (.quoted read)).scan (doubled '"' cs) =
      some ⟨records, fields, .quoted (read ++ cs)⟩ := by
  induction cs generalizing read with
  | nil => simp [doubled]
  | cons c cs ih =>
    by_cases hc : c = '"'
    · simp [doubled, hc, Reading.step, ih]
    · simp [doubled, hc, Reading.step, ih]

/-- A character that needs no quotes does not end a bare field. -/
lemma not_special_of_needsQuotes {c : Char} (h : ¬ needsQuotes c = true) :
    c ≠ ',' ∧ c ≠ '"' ∧ c ≠ '\r' ∧ c ≠ '\n' := by
  simpa [needsQuotes, not_or, and_assoc] using h

/-- Characters that need no quotes are added to the field that is read. -/
lemma scan_bare (read : List Char) {cs : List Char} (h : ∀ c ∈ cs, ¬ needsQuotes c = true) :
    (Reading.mk records fields (.bare read)).scan cs =
      some ⟨records, fields, .bare (read ++ cs)⟩ := by
  induction cs generalizing read with
  | nil => simp
  | cons c cs ih =>
    obtain ⟨hcomma, hquote, hreturn, hfeed⟩ := not_special_of_needsQuotes (h c List.mem_cons_self)
    have ih := ih (read ++ [c]) fun d hd => h d (List.mem_cons_of_mem _ hd)
    simp [Reading.step, hcomma, hquote, hreturn, hfeed, ih]

/-- The place behind a written field: the character that follows finds the field complete. -/
inductive Behind : List Char → Place → Prop where
  | empty : Behind [] .start
  | bare {field : List Char} : field ≠ [] → Behind field (.bare field)
  | quote (field : List Char) : Behind field (.quote field)

/-- Any field is read as it was before it was written. -/
lemma reads_fieldChars (field : List Char) :
    ∃ place, Behind field place ∧ (place = .start → fieldChars field = []) ∧
      (Reading.mk records fields .start).scan (fieldChars field) =
        some ⟨records, fields, place⟩ := by
  unfold fieldChars
  split
  next hany =>
    refine ⟨.quote field, .quote field, nofun, ?_⟩
    have hquotes := scan_doubled records fields [] field
    simp [Reading.step, Reading.scan_append, hquotes]
  next hany =>
    cases field with
    | nil => exact ⟨.start, .empty, fun _ => rfl, rfl⟩
    | cons c cs =>
      have hbare : ∀ d ∈ c :: cs, ¬ needsQuotes d = true := by simpa using hany
      obtain ⟨hcomma, hquote, hreturn, hfeed⟩ :=
        not_special_of_needsQuotes (hbare c List.mem_cons_self)
      have hrest := scan_bare records fields [c] fun d hd => hbare d (List.mem_cons_of_mem _ hd)
      refine ⟨.bare (c :: cs), .bare (List.cons_ne_nil c cs), nofun, ?_⟩
      simp [Reading.step, hcomma, hquote, hreturn, hfeed, hrest]

/-- A comma behind a written field completes it, and the next field begins. -/
lemma Behind.step_comma {field : List Char} {place : Place} (h : Behind field place) :
    (Reading.mk records fields place).step ',' =
      some ⟨records, fields ++ [String.ofList field], .start⟩ := by
  cases h <;> simp [Reading.step, Reading.close]

/-- A line feed ends the record, unless the line is empty. -/
lemma Behind.step_feed {field : List Char} {place : Place} (h : Behind field place)
    (hline : place = .start → fields ≠ []) :
    (Reading.mk records fields place).step '\n' =
      some ⟨records ++ [fields ++ [String.ofList field]], [], .start⟩ := by
  cases h with
  | empty => simp [Reading.step, Reading.close, hline rfl]
  | bare _ => simp [Reading.step, Reading.close]
  | quote _ => simp [Reading.step, Reading.close]

/-- A line of fields that is not empty is read as these fields. -/
lemma reads_fieldsChars {written : List (List Char)} (hwritten : written ≠ [])
    (hline : fields ≠ [] ∨ fieldsChars written ≠ []) :
    (Reading.mk records fields .start).scan (fieldsChars written ++ ['\n']) =
      some ⟨records ++ [fields ++ written.map String.ofList], [], .start⟩ := by
  induction written generalizing fields with
  | nil => exact absurd rfl hwritten
  | cons field more ih =>
    obtain ⟨place, hbehind, hstart, hscan⟩ := reads_fieldChars records fields field
    cases more with
    | nil =>
      have hfeed := hbehind.step_feed records fields fun hplace =>
        hline.resolve_right fun h => h (hstart hplace)
      simp [fieldsChars, Reading.scan_append, hscan, hfeed]
    | cons next more =>
      have hcomma := hbehind.step_comma records fields
      have hmore := ih (fields ++ [String.ofList field]) (List.cons_ne_nil next more) (.inl (by simp))
      simpa [fieldsChars, Reading.scan_append, hscan, hcomma] using hmore

/-- A record is read as its fields, and so is one that would be an empty line without its quotes. -/
lemma reads_recordChars {written : List (List Char)} (hwritten : written ≠ []) :
    (Reading.mk records [] .start).scan (recordChars written) =
      some ⟨records ++ [written.map String.ofList], [], .start⟩ := by
  by_cases hline : fieldsChars written = []
  · -- only one empty field is written as nothing
    obtain rfl : written = [[]] := by
      match written, hwritten with
      | [field], _ =>
        have hfield : fieldChars field = [] := hline
        unfold fieldChars at hfield
        split at hfield
        · cases hfield
        · rw [hfield]
      | field :: next :: more, _ => simp [fieldsChars] at hline
    simp [recordChars, fieldsChars, fieldChars, Reading.step, Reading.close]
  · have hscan := reads_fieldsChars records [] hwritten (.inr hline)
    simpa [recordChars, hline] using hscan

/-- Written records are read one after another, up to the start of a line. -/
lemma reads_records {written : List (List (List Char))} (hwritten : ∀ r ∈ written, r ≠ []) :
    (Reading.mk records [] .start).scan (written.flatMap recordChars) =
      some ⟨records ++ written.map (List.map String.ofList), [], .start⟩ := by
  induction written generalizing records with
  | nil => simp
  | cons record more ih =>
    have hrecord := reads_recordChars records (hwritten record List.mem_cons_self)
    have ih := ih (records ++ [record.map String.ofList]) fun r hr =>
      hwritten r (List.mem_cons_of_mem _ hr)
    simp [Reading.scan_append, hrecord, ih]

/-- What a field of a record says of a row's value under a column name. -/
inductive Holds (row : Row) (name : String) : String → Prop where
  | value {v : Value} (hget : row.get? name = some v) (hv : v ≠ .null) : Holds row name v.sqlText
  | null (hget : row.get? name = some .null) : Holds row name ""
  | missing (hget : row.get? name = none) : Holds row name ""

/-- The text of a row's value, or of NULL where the row has none, says what the row holds. -/
lemma holds_field (row : Row) (name : String) :
    Holds row name (((row.get? name).getD .null).sqlText) := by
  cases hget : row.get? name with
  | none => exact .missing hget
  | some v =>
    by_cases hv : v = .null
    · subst hv
      exact .null hget
    · exact .value hget hv

/-- The fields of a record say what the row holds under each of the names. -/
lemma holds_rowFields (names : List String) (row : Row) :
    List.Forall₂ (Holds row) names ((rowFields names row).map String.ofList) := by
  simpa [rowFields, List.forall₂_map_right_iff, List.forall₂_same] using
    fun name _ => holds_field row name

/-- The exported text is read as the column names of the first row and then a record for each row, in
order: as wide as the first, with the text of the row's value under each name. -/
theorem readSeparated_csv (first : Row) (rest : List Row) (hnames : first.keys ≠ []) :
    ∃ records, readSeparated (csv (first :: rest)) = some (first.keys :: records) ∧
      List.Forall₂ (fun row record => List.Forall₂ (Holds row) first.keys record)
        (first :: rest) records := by
  refine ⟨(first :: rest).map fun row => (rowFields first.keys row).map String.ofList, ?_, ?_⟩
  · have hwide : ∀ r ∈ first.keys.map String.toList :: (first :: rest).map (rowFields first.keys),
        r ≠ [] := by
      simp [rowFields, hnames]
    simp only [readSeparated, csv, String.toList_ofList, reads_records [] hwide]
    simp [Reading.finish?, Function.comp_def]
  · rw [List.forall₂_map_right_iff, List.forall₂_same]
    exact fun row _ => holds_rowFields first.keys row

/-- A row whose column names and values hold commas, quotes and line ends. -/
def bolt : Row := ⟨[("id", .int 1), ("size, \"label\"", .text "M4,\r\n\"small\"")], by decide⟩

/-- A row of other columns. -/
def washer : Row := ⟨[("id", .null), ("width", .bool true)], by decide⟩

/-- The rows with commas, quotes and line ends in them are read back, under the columns of the first. -/
theorem readSeparated_csv_bolt : bolt.keys ≠ [] ∧
    ∃ records, readSeparated (csv [bolt, washer]) = some (["id", "size, \"label\""] :: records) ∧
      List.Forall₂ (fun row record => List.Forall₂ (Holds row) ["id", "size, \"label\""] record)
        [bolt, washer] records :=
  ⟨by decide, readSeparated_csv bolt [washer] (by decide)⟩

-- lines of one empty field are not empty lines
example : readSeparated (csv [⟨[("", .null)], by decide⟩, ⟨[], by decide⟩]) = some [[""], [""], [""]] := by
  decide

end RecordAccess.Export
