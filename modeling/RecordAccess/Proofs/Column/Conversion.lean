import RecordAccess.Proofs.Column.Admission

/-!
# Converted values

What a value denotes in a logical type is another value, exactly of that type (`Denotes`). A column
converts a value to what it denotes in the column's type, and leaves a value that denotes nothing there
(`coerce_eq_iff`). A value of the type denotes nothing but itself, so that a second conversion finds
nothing to do.
-/

namespace RecordAccess

/-- The logical type that a value is exactly of; null and bytes are of none. -/
def Value.logicalType? : Value → Option LogicalType
  | null => none
  | bool _ => some .bool
  | int _ => some .int
  | float _ => some .float
  | text _ => some .text
  | dateTime _ => some .dateTime
  | binary _ => none

namespace LogicalType

/-- What a value denotes in a logical type. -/
inductive Denotes : LogicalType → Value → Value → Prop where
  | integer {v n} :
    v.asInt? = some n →
    Denotes .int v (.int n)
  | number {v x} :
    v.asFloat? = some x →
    Denotes .float v (.float x)
  | word {s b} :
    truthWord? (trim s) = some b →
    Denotes .bool (.text s) (.bool b)
  | nonzero {v n} :
    v.asText? = none →
    v.asInt? = some n →
    Denotes .bool v (.bool (n != 0))
  | scalar {v} :
    v.isScalar = true →
    Denotes .text v (.text v.sqlText)
  | date {s} : Denotes .dateTime (.text s) (.dateTime s)

variable {type : LogicalType} {v w : Value}

/-- What is denoted in a type is exactly of the type. -/
lemma Denotes.logicalType?_eq (h : Denotes type v w) : w.logicalType? = some type := by
  cases h <;> rfl

/-- Null denotes nothing. -/
lemma Denotes.ne_null (h : Denotes type v w) : v ≠ .null := by
  rintro rfl
  cases h with
  | integer hint => cases hint
  | number hfloat => cases hfloat
  | nonzero _ hint => cases hint
  | scalar hscalar => cases hscalar

/-- A truth value is made of the integer that a value denotes, if the value is no text. -/
lemma convert?_bool_of_asText? (h : v.asText? = none) :
    bool.convert? v = v.asInt?.map fun n => .bool (n != 0) := by
  cases v with
  | text s => cases h
  | _ => rfl

/-- A value is converted to what it denotes. -/
lemma convert?_eq_some_iff : type.convert? v = some w ↔ Denotes type v w := by
  constructor
  · intro h
    cases type with
    | int =>
      obtain ⟨n, hint, rfl⟩ := Option.map_eq_some_iff.1 (convert?_int v ▸ h)
      exact .integer hint
    | float =>
      obtain ⟨x, hfloat, rfl⟩ := Option.map_eq_some_iff.1 (convert?_float v ▸ h)
      exact .number hfloat
    | bool =>
      cases htext : v.asText? with
      | none =>
        rw [convert?_bool_of_asText? htext] at h
        obtain ⟨n, hint, rfl⟩ := Option.map_eq_some_iff.1 h
        exact .nonzero htext hint
      | some s =>
        cases v with
        | text s =>
          rw [convert?, Option.map_eq_some_iff] at h
          obtain ⟨b, hword, rfl⟩ := h
          exact .word hword
        | dateTime s => cases h
        | _ => cases htext
    | text => cases v <;> cases h <;> exact .scalar rfl
    | dateTime =>
      cases v <;> cases h
      exact .date
  · intro h
    cases h with
    | integer hint => rw [convert?_int, hint, Option.map_some]
    | number hfloat => rw [convert?_float, hfloat, Option.map_some]
    | word hword => rw [convert?, hword, Option.map_some]
    | nonzero htext hint => rw [convert?_bool_of_asText? htext, hint, Option.map_some]
    | scalar hscalar => cases v <;> first | rfl | cases hscalar
    | date => rfl

end LogicalType

namespace Column
open LogicalType

variable {c : Column} {v w : Value}

/-- A value becomes what it denotes in the column's type, or stays if it denotes nothing there. -/
lemma coerce_eq_iff :
    c.coerce v = w ↔
      Denotes c.logicalType v w ∨ w = v ∧ ∀ u, ¬ Denotes c.logicalType v u := by
  simp only [← convert?_eq_some_iff, coerce]
  cases c.logicalType.convert? v with
  | none => simp [eq_comm]
  | some u => simp

/-- A second conversion changes nothing, nothing but null becomes null, and what is not left as it is
becomes a value exactly of the column's type: what it denotes there, if it denotes anything. -/
theorem converted_once_or_left (c : Column) (v : Value) :
    c.coerce (c.coerce v) = c.coerce v ∧
      (c.coerce v = .null ↔ v = .null) ∧
      (c.coerce v = v ∨ (c.coerce v).logicalType? = some c.logicalType) ∧
      ∀ w, c.coerce v = w ↔
        Denotes c.logicalType v w ∨ w = v ∧ ∀ u, ¬ Denotes c.logicalType v u := by
  have hcases := coerce_eq_iff.1 (Eq.refl (c.coerce v))
  refine ⟨c.coerce_coerce v, ⟨?_, ?_⟩, ?_, fun w => coerce_eq_iff⟩
  · intro hnull
    obtain hdenotes | ⟨hleft, -⟩ := hcases
    · rw [hnull] at hdenotes
      cases hdenotes.logicalType?_eq
    · exact hleft.symm.trans hnull
  · rintro rfl
    exact coerce_eq_iff.2 (.inr ⟨rfl, fun w hdenotes => hdenotes.ne_null rfl⟩)
  · obtain hdenotes | ⟨hleft, -⟩ := hcases
    · exact .inr hdenotes.logicalType?_eq
    · exact .inl hleft

end Column
end RecordAccess
