import RecordAccess.Column.Basic
import RecordAccess.Proofs.Number.Exact

/-!
# Values that a column admits

A value that a column admits should become a value of the column's type that the column admits too.
Conversion does its part: it gives values of the type (`holds_of_convert?`), and what it gave it leaves
(`coerce_coerce`). The test lets some values through for which this fails (`Overlooks`): in a column of
integers, numbers and texts of numbers that are no integers; in a column of text, numbers whose text is
too long. `consistent_iff` says that these are all.

A number that is converted to an integer is the integer, as long as it lies within 64 bits. Beyond, it
becomes the last integer there, and the test compares the end of the range instead (`clamped`). This
is `converted_exactly_iff`.
-/

namespace RecordAccess

/-- Whether a value is a number or a truth value, which a column of text takes as its text. -/
def Value.isScalar : Value → Bool
  | bool _ => true
  | int _ => true
  | float _ => true
  | _ => false

namespace LogicalType

/-- Whether a value is one of a logical type; text and dates are one kind of values. -/
def holds : LogicalType → Value → Bool
  | int, .int _ => true
  | float, .float _ => true
  | bool, .bool _ => true
  | text, .text _ => true
  | text, .dateTime _ => true
  | dateTime, .text _ => true
  | dateTime, .dateTime _ => true
  | _, _ => false

variable {type : LogicalType} {v w : Value}

/-- In a column of integers a value becomes its integer view, if it has one. -/
lemma convert?_int (v : Value) : int.convert? v = v.asInt?.map .int := by
  cases v <;> rfl

/-- In a column of floating-point numbers a value becomes its view as one, if it has one. -/
lemma convert?_float (v : Value) : float.convert? v = v.asFloat?.map .float := by
  cases v <;> rfl

/-- In a column of truth values a value becomes a truth value or nothing. -/
lemma exists_convert?_bool (v : Value) : ∃ b : Option Bool, bool.convert? v = b.map .bool := by
  cases v with
  | null => exact ⟨none, rfl⟩
  | text s => exact ⟨truthWord? (trim s), rfl⟩
  | float x =>
    refine ⟨(Value.float x).asInt?.map fun n => n != 0, ?_⟩
    rw [Option.map_map]
    rfl
  | bool b => exact ⟨some _, rfl⟩
  | int n => exact ⟨some _, rfl⟩
  | dateTime s => exact ⟨none, rfl⟩
  | binary bytes => exact ⟨none, rfl⟩

/-- What a value is converted to is of the type, and stays as it is if it is converted again. -/
lemma holds_of_convert? (h : type.convert? v = some w) :
    type.holds w = true ∧ (type.convert? w).getD w = w := by
  cases type with
  | int =>
    obtain ⟨n, -, rfl⟩ := Option.map_eq_some_iff.1 (convert?_int v ▸ h)
    exact ⟨rfl, rfl⟩
  | float =>
    obtain ⟨x, -, rfl⟩ := Option.map_eq_some_iff.1 (convert?_float v ▸ h)
    exact ⟨rfl, rfl⟩
  | bool =>
    obtain ⟨o, ho⟩ := exists_convert?_bool v
    obtain ⟨b, -, rfl⟩ := Option.map_eq_some_iff.1 (ho ▸ h)
    cases b <;> exact ⟨rfl, rfl⟩
  | text =>
    cases v <;> cases h <;> exact ⟨rfl, rfl⟩
  | dateTime =>
    cases v <;> cases h
    exact ⟨rfl, rfl⟩

end LogicalType

namespace Column

variable {c : Column} {v : Value}

/-- A value is converted to one of the column's type, or is left as it is. -/
lemma coerce_cases (c : Column) (v : Value) :
    c.logicalType.holds (c.coerce v) = true ∨
      c.logicalType.convert? v = none ∧ c.coerce v = v := by
  unfold coerce
  cases h : c.logicalType.convert? v with
  | none => exact .inr ⟨rfl, rfl⟩
  | some w => exact .inl (LogicalType.holds_of_convert? h).1

/-- A conversion leaves what a conversion gave. -/
lemma coerce_coerce (c : Column) (v : Value) : c.coerce (c.coerce v) = c.coerce v := by
  cases h : c.logicalType.convert? v with
  | none => simp [coerce, h]
  | some w => simpa [coerce, h] using (LogicalType.holds_of_convert? h).2

/-- A value that is there does not become null. -/
lemma isNull_coerce (c : Column) (h : v.isNull = false) : (c.coerce v).isNull = false := by
  obtain hholds | ⟨-, heq⟩ := c.coerce_cases v
  · cases hw : c.coerce v with
    | null => cases hc : c.logicalType <;> rw [hw, hc] at hholds <;> cases hholds
    | _ => rfl
  · rwa [heq]

/-- A column of numbers admits the values whose conversion is a number in range. -/
lemma admits_of_number (hc : c.logicalType = .int ∨ c.logicalType = .float)
    (hv : v.isNull = false) : c.admits v = (c.coerce v).asFloat?.any c.inRange := by
  obtain hc | hc := hc <;> simp [admits, hv, hc]

/-- In a column of numbers, what is admitted is so after its conversion. -/
lemma admits_coerce_of_number (hc : c.logicalType = .int ∨ c.logicalType = .float)
    (hv : v.isNull = false) : c.admits (c.coerce v) = c.admits v := by
  rw [admits_of_number hc hv, admits_of_number hc (c.isNull_coerce hv), coerce_coerce]

/-- A value that is admitted though it does not fit. -/
inductive Overlooks (c : Column) : Value → Prop where
  | fraction {x} :
    c.logicalType = .int →
    x.toInt? = none →
    c.inRange x = true →
    Overlooks c (.float x)
  | decimalText {s x} :
    c.logicalType = .int →
    readInt64? (trimChars s.toList) = none →
    Binary64.ofText? (trimChars s.toList) = some x →
    c.inRange x = true →
    Overlooks c (.text s)
  | longText {v longest} :
    c.logicalType = .text →
    v.isScalar = true →
    c.length = some longest →
    longest < v.sqlText.length →
    Overlooks c v

/-- A value that is admitted becomes one of the column's type, which is admitted as well. -/
def Consistent (c : Column) (v : Value) : Prop :=
  c.admits v = true → c.logicalType.holds (c.coerce v) = true ∧ c.admits (c.coerce v) = true

/-- In a column of integers those values are overlooked that are numbers in range and no integers. -/
lemma overlooks_iff_of_int (hc : c.logicalType = .int) :
    c.Overlooks v ↔ v.asInt? = none ∧ v.asFloat?.any c.inRange = true := by
  constructor
  · intro h
    cases h with
    | @fraction x _ hx hrange =>
      exact ⟨by rw [Value.asInt?, hx, Option.map_none], hrange⟩
    | decimalText _ hread htext hrange =>
      exact ⟨hread, by rw [Value.asFloat?, htext]; exact hrange⟩
    | longText htext _ _ _ => cases hc.symm.trans htext
  · rintro ⟨hnone, hany⟩
    cases v with
    | float x => exact .fraction hc (Option.map_eq_none_iff.1 hnone) hany
    | text s =>
      obtain ⟨x, htext, hrange⟩ := (Option.any_eq_true ..).1 hany
      exact .decimalText hc hnone htext hrange
    | null => cases hany
    | bool b => cases hnone
    | int n => cases hnone
    | dateTime s => cases hany
    | binary bytes => cases hany

/-- A column of integers is consistent on the values that it does not overlook. -/
lemma consistent_iff_of_int (hc : c.logicalType = .int) (hv : v.isNull = false) :
    c.Consistent v ↔ ¬ c.Overlooks v := by
  rw [Consistent, admits_coerce_of_number (.inl hc) hv, admits_of_number (.inl hc) hv,
    overlooks_iff_of_int hc, coerce, hc, LogicalType.convert?_int]
  cases hint : v.asInt? with
  | some n => simp [LogicalType.holds]
  | none =>
    have hother : LogicalType.int.holds v = false := by
      cases v <;> first | rfl | cases hint
    simp [hother]

/-- A column of floating-point numbers is consistent on every value but null. -/
lemma consistent_of_float (hc : c.logicalType = .float) (hv : v.isNull = false) :
    c.Consistent v := by
  rw [Consistent, admits_coerce_of_number (.inr hc) hv, admits_of_number (.inr hc) hv, coerce, hc,
    LogicalType.convert?_float]
  cases hfloat : v.asFloat? with
  | some x => simp [LogicalType.holds]
  | none => simp [hfloat]

/-- A column of truth values is consistent on every value but null. -/
lemma consistent_of_bool (hc : c.logicalType = .bool) (hv : v.isNull = false) :
    c.Consistent v := by
  intro h
  have hagain := c.isNull_coerce hv
  simp only [admits, hv, hagain, hc, coerce_coerce, Bool.false_eq_true, if_false] at h ⊢
  refine ⟨?_, h⟩
  split at h
  · next b hb => rw [hb, LogicalType.holds]
  · cases h

/-- A column of dates is consistent on every value but null. -/
lemma consistent_of_dateTime (hc : c.logicalType = .dateTime) (hv : v.isNull = false) :
    c.Consistent v := by
  have hadmits {w : Value} (hw : w.isNull = false) : c.admits w = w.asText?.isSome := by
    simp [admits, hw, hc]
  rw [Consistent, hadmits hv, hadmits (c.isNull_coerce hv)]
  intro h
  cases v with
  | text s => simp [coerce, hc, LogicalType.convert?, LogicalType.holds, Value.asText?]
  | dateTime s => simp [coerce, hc, LogicalType.convert?, LogicalType.holds, Value.asText?]
  | _ => cases h

/-- In a column of text those numbers and truth values are overlooked whose text is too long. -/
lemma overlooks_iff_of_text (hc : c.logicalType = .text) :
    c.Overlooks v ↔ v.isScalar = true ∧ c.admits (.text v.sqlText) = false := by
  have hlong : c.admits (.text v.sqlText) = false ↔
      ∃ longest, c.length = some longest ∧ longest < v.sqlText.length := by
    simp [admits, hc, Value.isNull, Option.all_eq_false]
  rw [hlong]
  constructor
  · intro h
    cases h with
    | longText _ hscalar hlength hlt => exact ⟨hscalar, _, hlength, hlt⟩
    | fraction hint => cases hc.symm.trans hint
    | decimalText hint => cases hc.symm.trans hint
  · rintro ⟨hscalar, longest, hlength, hlt⟩
    exact .longText hc hscalar hlength hlt

/-- A column of text is consistent on the values that it does not overlook. -/
lemma consistent_iff_of_text (hc : c.logicalType = .text) (hv : v.isNull = false) :
    c.Consistent v ↔ ¬ c.Overlooks v := by
  rw [overlooks_iff_of_text hc, Consistent]
  cases v with
  | null => cases hv
  | binary bytes => simp [admits, hc, Value.isNull, Value.isScalar]
  | text s => simp [coerce, hc, LogicalType.convert?, LogicalType.holds, Value.isScalar]
  | dateTime s => simp [coerce, hc, LogicalType.convert?, LogicalType.holds, Value.isScalar]
  | _ =>
    -- the value is admitted whatever its text is
    simp [coerce, admits, hc, LogicalType.convert?, LogicalType.holds, Value.isNull, Value.isScalar]

/-- A value other than null, if it is admitted, becomes one of the column's type that is admitted too,
unless it is overlooked. -/
theorem consistent_iff (c : Column) (v : Value) (hv : v.isNull = false) :
    c.Consistent v ↔ ¬ c.Overlooks v := by
  have hother (h : c.Consistent v) (hint : c.logicalType ≠ .int) (htext : c.logicalType ≠ .text) :
      c.Consistent v ↔ ¬ c.Overlooks v := by
    refine iff_of_true h ?_
    intro hover
    cases hover with
    | fraction hc => exact hint hc
    | decimalText hc => exact hint hc
    | longText hc => exact htext hc
  cases hc : c.logicalType with
  | int => exact consistent_iff_of_int hc hv
  | text => exact consistent_iff_of_text hc hv
  | float => exact hother (consistent_of_float hc hv) (by simp [hc]) (by simp [hc])
  | bool => exact hother (consistent_of_bool hc hv) (by simp [hc]) (by simp [hc])
  | dateTime => exact hother (consistent_of_dateTime hc hv) (by simp [hc]) (by simp [hc])

/-- A column of integers without bounds. -/
def counts : Column := ⟨"qty", .int, none, none, none, none, "INT"⟩

/-- A column of text of three characters. -/
def codes : Column := ⟨"code", .text, some 3, none, none, none, "VARCHAR(3)"⟩

/-- A text of the number twelve becomes an integer, which is admitted as the text is. -/
theorem consistent_twelve :
    (Value.text "12").isNull = false ∧ counts.admits (.text "12") = true ∧
      counts.Consistent (.text "12") ∧ ¬ counts.Overlooks (.text "12") := by
  have hnot : ¬ counts.Overlooks (.text "12") := by
    rw [overlooks_iff_of_int rfl]
    decide +kernel
  exact ⟨rfl, by decide +kernel, (consistent_iff counts (.text "12") rfl).2 hnot, hnot⟩

/-- The number one and a half is admitted as an integer, and five digits as a text of three
characters. -/
theorem not_consistent_overlooked :
    ¬ counts.Consistent (.text "1.5") ∧ ¬ codes.Consistent (.int 12345) := by
  constructor
  · intro h
    exact absurd (h (by decide +kernel)).1 (by decide +kernel)
  · intro h
    exact absurd (h (by decide +kernel)).2 (by decide +kernel)

end Column

/-- Saturation gives the integer itself, or the end of the 64-bit range that it lies beyond. -/
lemma toInt_saturate64 (n : Int) :
    (saturate64 n).toInt = max (-0x8000000000000000) (min n 0x7FFFFFFFFFFFFFFF) :=
  Int64.toInt_ofInt_of_le (by omega) (by omega)

namespace Binary64

/-- The number, or the end of the range of 64-bit integers that an integer beyond is nearest to. -/
def clamped (x : Binary64) : Binary64 :=
  match x.toInt? with
  | some n =>
    if n < -0x8000000000000000 then ofInt (-0x8000000000000000)
    else if n < 0x8000000000000000 then x
    else ofInt 0x8000000000000000
  | none => x

/-- Within the range a number is as it is. -/
lemma clamped_of_within {x : Binary64}
    (h : ∀ q, x.rational? = some q → -0x8000000000000000 ≤ q ∧ q < 0x8000000000000000) :
    x.clamped = x := by
  unfold clamped
  split
  · next n hn =>
    have hwithin := h n (toInt?_eq_some_iff.1 hn)
    have hlow : -0x8000000000000000 ≤ n := by exact_mod_cast hwithin.1
    have hhigh : n < 0x8000000000000000 := by exact_mod_cast hwithin.2
    rw [if_neg (Int.not_lt.2 hlow), if_pos hhigh]
  · rfl

/-- The integer that a number is converted to is rounded to the number, or to an end of the range. -/
lemma units?_ofInt_saturate64 {x : Binary64} {n : Int} (h : x.toInt? = some n) :
    (ofInt (saturate64 n).toInt).units? = x.clamped.units? := by
  have hlast : (ofInt 0x7FFFFFFFFFFFFFFF).units? = (ofInt 0x8000000000000000).units? := by
    decide +kernel
  rw [clamped, h, toInt_saturate64]
  dsimp only
  split
  · next hlow => rw [min_eq_left (by omega), max_eq_left (by omega)]
  · next hlow =>
    split
    · next hhigh =>
      rw [min_eq_left (by omega), max_eq_right (by omega)]
      exact units?_ofInt h
    · next hhigh => rw [min_eq_right (by omega), max_eq_right (by omega), hlast]

end Binary64

namespace Value

/-- A number is converted to the integer that it is if that lies within 64 bits. -/
lemma toInt_eq_exact_iff {x : Binary64} {n : Int64} (h : (float x).asInt? = some n) :
    ∃ q : ℚ, x.rational? = some q ∧
      (n.toInt = q ↔ -0x8000000000000000 ≤ q ∧ q < 0x8000000000000000) := by
  obtain ⟨k, hk, rfl⟩ := Option.map_eq_some_iff.1 h
  refine ⟨k, Binary64.toInt?_eq_some_iff.1 hk, ?_⟩
  rw [toInt_saturate64]
  norm_cast
  omega

end Value

namespace Column

variable {c : Column} {x : Binary64}

/-- Two numbers with the same units are both in the range of a column, or neither is. -/
lemma inRange_congr {x y : Binary64} (h : x.units? = y.units?) : c.inRange x = c.inRange y := by
  simp only [inRange, Binary64.le, h]

/-- A column of integers makes of a number the integer that it is converted to. -/
lemma coerce_float_eq_int_iff (hc : c.logicalType = .int) {n : Int64} :
    c.coerce (.float x) = .int n ↔ (Value.float x).asInt? = some n := by
  rw [coerce, hc, LogicalType.convert?_int]
  cases (Value.float x).asInt? <;> simp

/-- What a column of integers compares with its bounds. -/
lemma admits_float (hc : c.logicalType = .int) :
    c.admits (.float x) = c.inRange x.clamped := by
  rw [admits_of_number (.inl hc) rfl, coerce, hc, LogicalType.convert?_int, Value.asInt?]
  cases hx : x.toInt? with
  | none =>
    have hclamped : x.clamped = x := by rw [Binary64.clamped, hx]
    simp [Value.asFloat?, hclamped]
  | some n =>
    simpa [Value.asFloat?] using inRange_congr (Binary64.units?_ofInt_saturate64 hx)

/-- An integer that a number is converted to is the number if and only if that lies within the 64-bit
integers. A column of integers with bounds admits a number that lies there as far as it lies between the
bounds; of an integer beyond, the test looks at the end of the range instead. -/
theorem converted_exactly_iff (x : Binary64) :
    (∀ n, (Value.float x).asInt? = some n →
      ∃ q : ℚ, x.rational? = some q ∧
        (n.toInt = q ↔ -0x8000000000000000 ≤ q ∧ q < 0x8000000000000000)) ∧
    ((∀ q, x.rational? = some q → -0x8000000000000000 ≤ q ∧ q < 0x8000000000000000) →
      x.clamped = x) ∧
    ∀ c : Column, c.logicalType = .int →
      (∀ n, c.coerce (.float x) = .int n ↔ (Value.float x).asInt? = some n) ∧
      ∀ low high, c.min = some low → c.max = some high →
        (c.admits (.float x) = true ↔ low.le x.clamped = true ∧ x.clamped.le high = true) := by
  refine ⟨fun n => Value.toInt_eq_exact_iff, Binary64.clamped_of_within, ?_⟩
  intro c hc
  refine ⟨fun n => coerce_float_eq_int_iff hc, ?_⟩
  intro low high hlow hhigh
  simp [admits_float hc, inRange, hlow, hhigh]

/-- A column of the 64-bit integers. -/
def keys : Column :=
  ⟨"id", .int, none, some (.ofInt (-0x8000000000000000)), some (.ofInt 0x8000000000000000), none,
    "INTEGER"⟩

/-- The number three is converted to the integer three, and is admitted as it lies between the bounds. -/
theorem converted_three :
    (Value.float (.ofInt 3)).asInt? = some 3 ∧
      (∃ q : ℚ, (Binary64.ofInt 3).rational? = some q ∧
        ((3 : Int64).toInt = q ↔ -0x8000000000000000 ≤ q ∧ q < 0x8000000000000000)) ∧
      (Binary64.ofInt 3).clamped = .ofInt 3 ∧
      keys.coerce (.float (.ofInt 3)) = .int 3 ∧
      keys.admits (.float (.ofInt 3)) = true := by
  have hint : (Value.float (.ofInt 3)).asInt? = some 3 := by decide +kernel
  have hexact : (Binary64.ofInt 3).rational? = some ((3 : Int) : ℚ) :=
    Binary64.toInt?_eq_some_iff.1 (by decide +kernel)
  obtain ⟨hconverted, hclamped, hcolumns⟩ := converted_exactly_iff (.ofInt 3)
  obtain ⟨hcoerce, hadmits⟩ := hcolumns keys rfl
  refine ⟨hint, hconverted 3 hint, hclamped ?_, (hcoerce 3).2 hint, ?_⟩
  · intro q hq
    obtain rfl : (3 : Int) = q := Option.some_inj.1 (hexact.symm.trans hq)
    norm_num
  · exact (hadmits _ _ rfl rfl).2 (by decide +kernel)

/-- The number ten to the nineteenth, beyond the 64-bit integers. -/
def tenToNineteen : Binary64 := .ofBits 0x43E158E460913D00

/-- Ten to the nineteenth becomes the last integer, and is admitted in a column that ends before it. -/
theorem not_exact_tenToNineteen :
    (Value.float tenToNineteen).asInt? = some 9223372036854775807 ∧
      tenToNineteen.rational? ≠ some ((9223372036854775807 : Int64).toInt : ℚ) ∧
      keys.coerce (.float tenToNineteen) = .int 9223372036854775807 ∧
      keys.admits (.float tenToNineteen) = true ∧
      tenToNineteen.le (.ofInt 0x8000000000000000) = false := by
  have hint : tenToNineteen.toInt? = some 10000000000000000000 := by decide +kernel
  refine ⟨by decide +kernel, ?_, by decide +kernel, by decide +kernel, by decide +kernel⟩
  rw [Binary64.toInt?_eq_some_iff.1 hint]
  decide +kernel

end Column

end RecordAccess
