import RecordAccess.Proofs.Column.Admission
import RecordAccess.Proofs.Column.TypeToken
import RecordAccess.Proofs.Number.Power
import RecordAccess.Proofs.Text.Parts

/-!
# The ranges of columns

A column of numbers should have a range that has zero in it. The types of a fixed width have (`spans_int`,
`spans_float`). The range of a decimal type is computed from the digits before the point
(`DeclaresDecimal`), whose count is taken as a signed number of 32 bits. From 2³¹ digits on it may come
out negative (`Overflows`), and then the range is empty, since its upper end is below zero and below its
lower end. `spans_zero_iff` says that it is empty in no other case.
-/

namespace RecordAccess.Mapping

open Binary64 TypeToken

/-- Whether one of some parts is in a text. -/
def Mentions (base : String) (parts : List String) : Prop :=
  ∃ part ∈ parts, part.toList <:+: base.toList

/-- The parts of a type's name that SQLite tests for before those of decimal types. -/
def earlierParts : List String :=
  ["blob", "bool", "int", "char", "clob", "text", "date", "time", "real", "floa", "doub"]

/-- The parts of the names of decimal types. -/
def decimalParts : List String := ["decimal", "numeric"]

/-- A native column is of a decimal type, with so many digits and so many of them after the point. -/
inductive DeclaresDecimal (native : NativeColumn) : Backend → Nat → Nat → Prop where
  | whole {token precision} :
    Spells native.dataType.toList token →
    ¬ Mentions token.base earlierParts →
    Mentions token.base decimalParts →
    token.args = [precision] →
    DeclaresDecimal native .sqlite precision 0
  | scaled {token precision scale} :
    Spells native.dataType.toList token →
    ¬ Mentions token.base earlierParts →
    Mentions token.base decimalParts →
    token.args = [precision, scale] →
    DeclaresDecimal native .sqlite precision scale
  | reported {token} :
    Spells native.dataType.toList token →
    token.base ∈ decimalParts →
    DeclaresDecimal native .sqlServer (digitCount native.precision token.args.head? 18)
      (digitCount native.scale (token.args.drop 1).head? 0)

/-- The exponent of the end of a decimal type's range: the digits before the point, of which there are
none if more of them are after it, as a signed number of 32 bits. -/
def boundExponent (precision scale : Nat) : Int :=
  ((precision - scale : Nat) : Int).bmod UInt32.size

/-- A column is of a decimal type with so many digits before the point that 32 bits take their count for a
negative number. -/
def Overflows (backend : Backend) (native : NativeColumn) : Prop :=
  ∃ precision scale, DeclaresDecimal native backend precision scale ∧
    2 ^ 31 ≤ (precision - scale) % 2 ^ 32

variable {backend : Backend} {native : NativeColumn} {token : TypeToken} {mapping : Mapping}
  {precision scale : Nat} {low high : Binary64}

/-- Taken as a signed number of 32 bits, a count is negative if its lowest 32 bits begin with a one. -/
lemma bmod_neg_iff (n : Nat) : (n : Int).bmod UInt32.size < 0 ↔ 2 ^ 31 ≤ n % 2 ^ 32 := by
  rw [UInt32.size, Int.bmod_def]
  omega

/-- A count is taken for itself in 32 bits if it is below 2³¹. -/
lemma bmod_eq_iff (n : Nat) : (n : Int).bmod UInt32.size = n ↔ n < 2 ^ 31 := by
  rw [UInt32.size, Int.bmod_def]
  omega

/-- The test for the parts of a name is whether it mentions one of them. -/
lemma mentions_iff (base : String) (parts : List String) :
    mentions base parts = true ↔ Mentions base parts := by
  simp only [mentions, Mentions, List.any_eq_true, occursIn_iff]

/-- The token that is read from a type is the one that its text spells. -/
lemma spells_iff (text : String) : ofText? text = some token ↔ Spells text.toList token := by
  rw [← ofText?_eq_some_iff, String.ofList_toList]

/-- A name mentions an earlier part if it passes one of the tests before that for decimal types. -/
lemma mentions_earlierParts (base : String) :
    mentions base earlierParts =
      (mentions base ["blob"] || mentions base ["bool"] || mentions base ["int"] ||
        mentions base ["char", "clob", "text"] || mentions base ["date", "time"] ||
        mentions base ["real", "floa", "doub"]) := by
  simp [mentions, earlierParts, Bool.or_assoc]

/-- The types whose names have no part that SQLite tests for before those of decimal types. -/
lemma ofSqlite?_of_args (hnot : ¬ Mentions token.base earlierParts)
    (hdecimal : Mentions token.base decimalParts) :
    (∀ precision, token.args = [precision] →
        ofSqlite? token = some (decimal precision 0 token.unsigned)) ∧
      ∀ precision scale, token.args = [precision, scale] →
        ofSqlite? token = some (decimal precision scale token.unsigned) := by
  have hempty : token.base.isEmpty = false := by
    rw [Bool.eq_false_iff]
    intro hempty
    obtain ⟨part, hmem, hpart⟩ := hdecimal
    rw [String.isEmpty_iff.1 hempty] at hpart
    obtain rfl | rfl : part = "decimal" ∨ part = "numeric" := by simpa [decimalParts] using hmem
    · exact absurd (List.eq_nil_of_infix_nil hpart) (by decide)
    · exact absurd (List.eq_nil_of_infix_nil hpart) (by decide)
  rw [← mentions_iff, mentions_earlierParts] at hnot
  simp only [Bool.or_eq_true, not_or, Bool.not_eq_true] at hnot
  obtain ⟨⟨⟨⟨⟨hblob, hbool⟩, hint⟩, htext⟩, hdate⟩, hreal⟩ := hnot
  have hthis := (mentions_iff token.base decimalParts).2 hdecimal
  rw [decimalParts] at hthis
  constructor
  · intro precision hargs
    simp only [ofSqlite?, hempty, hblob, hbool, hint, htext, hdate, hreal, hthis, hargs,
      Bool.or_false, Bool.false_eq_true, if_false, if_true]
  · intro precision scale hargs
    simp only [ofSqlite?, hempty, hblob, hbool, hint, htext, hdate, hreal, hthis, hargs,
      Bool.or_false, Bool.false_eq_true, if_false, if_true]

/-- SQL Server's decimal types are mapped by their digits, with 18 and none after the point by default.
-/
lemma ofSqlServer?_of_mem (h : token.base ∈ decimalParts) :
    ofSqlServer? token native =
      some (decimal (digitCount native.precision token.args.head? 18)
        (digitCount native.scale (token.args.drop 1).head? 0) token.unsigned) := by
  obtain hbase | hbase : token.base = "decimal" ∨ token.base = "numeric" := by
    simpa [decimalParts] using h
  · simp [ofSqlServer?, hbase]
  · simp [ofSqlServer?, hbase]

/-- A declared decimal type is mapped to the range of its digits. -/
lemma ofNative?_of_declaresDecimal (h : DeclaresDecimal native backend precision scale) :
    ∃ unsigned, ofNative? backend native = some (decimal precision scale unsigned) := by
  cases h with
  | whole hspells hnot hdecimal hargs =>
    rw [ofNative?, (spells_iff _).2 hspells]
    exact ⟨_, (ofSqlite?_of_args hnot hdecimal).1 _ hargs⟩
  | scaled hspells hnot hdecimal hargs =>
    rw [ofNative?, (spells_iff _).2 hspells]
    exact ⟨_, (ofSqlite?_of_args hnot hdecimal).2 _ _ hargs⟩
  | reported hspells hmem =>
    rw [ofNative?, (spells_iff _).2 hspells]
    exact ⟨_, ofSqlServer?_of_mem hmem⟩

/-- A type has one count of digits. -/
lemma DeclaresDecimal.unique {precision' scale' : Nat}
    (h : DeclaresDecimal native backend precision scale)
    (h' : DeclaresDecimal native backend precision' scale') :
    precision = precision' ∧ scale = scale' := by
  have htoken {token token' : TypeToken} (ht : Spells native.dataType.toList token)
      (ht' : Spells native.dataType.toList token') : token = token' :=
    Option.some_inj.1 (((spells_iff _).2 ht).symm.trans ((spells_iff _).2 ht'))
  cases h with
  | whole hspells _ _ hargs =>
    cases h' with
    | whole hspells' _ _ hargs' =>
      obtain rfl := htoken hspells hspells'
      cases hargs.symm.trans hargs'
      exact ⟨rfl, rfl⟩
    | scaled hspells' _ _ hargs' =>
      obtain rfl := htoken hspells hspells'
      cases hargs.symm.trans hargs'
  | scaled hspells _ _ hargs =>
    cases h' with
    | whole hspells' _ _ hargs' =>
      obtain rfl := htoken hspells hspells'
      cases hargs.symm.trans hargs'
    | scaled hspells' _ _ hargs' =>
      obtain rfl := htoken hspells hspells'
      cases hargs.symm.trans hargs'
      exact ⟨rfl, rfl⟩
  | reported hspells _ =>
    cases h' with
    | reported hspells' _ =>
      obtain rfl := htoken hspells hspells'
      exact ⟨rfl, rfl⟩

/-- A mapping to numbers with a range that has zero in it. -/
inductive Spans : Mapping → Prop where
  | range {type low high} :
    type = .int ∨ type = .float →
    low.le zero = true →
    zero.le high = true →
    Spans (range type low high)

/-- Zero is not above zero. -/
lemma zero_le_zero : zero.le zero = true := by decide +kernel

/-- The number two is at least two. -/
lemma atLeast_two : AtLeast twoRank (ofInt (2 : Nat)) := by
  have htwo : ofInt (2 : Nat) = finite false ⟨twoRank, by decide⟩ := by decide +kernel
  exact htwo ▸ .finite (Nat.le_refl _)

/-- The number ten is at least two. -/
lemma atLeast_ten : AtLeast twoRank (ofInt (10 : Nat)) := by
  have hten : ofInt (10 : Nat) = finite false ⟨0x4024000000000000, by decide⟩ := by
    decide +kernel
  exact hten ▸ .finite (by decide)

/-- The mapping of a decimal type, with the ends of its range at the power of ten of the exponent. -/
lemma decimal_eq (precision scale : Nat) (unsigned : Bool) :
    decimal precision scale unsigned =
      Mapping.range (if scale = 0 then .int else .float)
        (if unsigned then zero else (belowPower 10 (boundExponent precision scale)).neg)
        (belowPower 10 (boundExponent precision scale)) := rfl

/-- The range of a type of integers with some bits has zero in it. -/
lemma spans_int {bits : Nat} (hbits : 0 < bits) (unsigned : Bool) : Spans (int bits unsigned) := by
  cases unsigned with
  | true =>
    have hpower := atLeast_two.pow (Int.natCast_nonneg bits)
    exact .range (.inl rfl) zero_le_zero hpower.sub_one.zero_le.1
  | false =>
    have hexponent : (0 : Int) ≤ (bits : Int) - 1 := by omega
    have hhalf := atLeast_two.pow hexponent
    exact .range (.inl rfl) (hhalf.mono (Nat.zero_le _)).zero_le.2 hhalf.sub_one.zero_le.1

/-- The range of a type of floating-point numbers reaches from zero, or from below it, to the largest.
-/
lemma spans_float {largest : Binary64} (h : AtLeast 0 largest) (unsigned : Bool) :
    Spans (float largest unsigned) := by
  cases unsigned with
  | true => exact .range (.inr rfl) zero_le_zero h.zero_le.1
  | false => exact .range (.inr rfl) h.zero_le.2 h.zero_le.1

/-- A decimal type is mapped to integers or to floating-point numbers. -/
lemma isNumber_decimal (scale : Nat) :
    (if scale = 0 then LogicalType.int else .float) = .int ∨
      (if scale = 0 then LogicalType.int else .float) = .float := by
  split
  · exact .inl rfl
  · exact .inr rfl

/-- A decimal type has zero in its range unless the exponent of the range's end is negative. -/
lemma spans_decimal (h : ¬ boundExponent precision scale < 0) (unsigned : Bool) :
    Spans (decimal precision scale unsigned) := by
  have hhigh : AtLeast 0 (belowPower 10 (boundExponent precision scale)) :=
    (atLeast_ten.pow (Int.not_lt.1 h)).sub_one
  rw [decimal_eq]
  refine .range (isNumber_decimal scale) ?_ hhigh.zero_le.1
  split
  · exact zero_le_zero
  · exact hhigh.zero_le.2

/-- The range of a decimal type has no numbers in it if the exponent of its end is negative. -/
lemma decimal_empty (h : boundExponent precision scale < 0) {unsigned : Bool}
    (hlow : (decimal precision scale unsigned).min = some low)
    (hhigh : (decimal precision scale unsigned).max = some high) :
    low.le high = false ∧ zero.le high = false := by
  have hneg : AtLeast halfRank (belowPower 10 (boundExponent precision scale)).neg :=
    atLeast_ten.neg_pow_sub_one h
  obtain ⟨hzero, hopposite⟩ := not_le_of_atLeast_neg hneg
  rw [decimal_eq] at hlow hhigh
  obtain rfl := Option.some_inj.1 hlow
  obtain rfl := Option.some_inj.1 hhigh
  refine ⟨?_, hzero⟩
  split
  · exact hzero
  · exact hopposite

/-- What a native column is mapped to: no range, a range with zero in it, or the range of a decimal
type. -/
inductive Ranging (backend : Backend) (native : NativeColumn) : Mapping → Prop where
  | unlimited {mapping : Mapping} :
    mapping.min = none →
    Ranging backend native mapping
  | spanning {mapping : Mapping} :
    Spans mapping →
    Ranging backend native mapping
  | declared {precision scale : Nat} (unsigned : Bool) :
    DeclaresDecimal native backend precision scale →
    Ranging backend native (decimal precision scale unsigned)

/-- A natural number is at least zero. -/
lemma atLeast_ofInt (n : Nat) : AtLeast 0 (ofInt n) := by
  have hunits : ofInt n = ofUnits (n * unitsPerOne : Nat) := by rw [ofInt, Nat.cast_mul]
  rw [hunits]
  exact atLeast_ofUnits (Nat.zero_le _)

/-- A decimal number without a sign is at least zero. -/
lemma atLeast_ofDecimal (coefficient : Nat) (exponent : Int) :
    AtLeast 0 (ofDecimal false coefficient exponent) := by
  simp only [ofDecimal]
  split_ifs
  · exact .finite (Nat.zero_le _)
  · exact .infinite
  · exact .finite (Nat.zero_le _)
  · exact atLeast_ofRatio (Nat.zero_le _)
  · exact atLeast_ofRatio (Nat.zero_le _)

/-- A test on the way to the type of a column. -/
lemma ranging_ite {c : Prop} [Decidable c] {mapping : Mapping} {rest : Option Mapping}
    (hthen : c → Ranging backend native mapping)
    (helse : ¬ c → ∀ mapping ∈ rest, Ranging backend native mapping) :
    ∀ mapping' ∈ (if c then some mapping else rest), Ranging backend native mapping' := by
  split
  next hc => simpa using hthen hc
  next hc => exact helse hc

/-- What SQLite's type tokens are mapped to has a range of one of the kinds. -/
lemma ranging_ofSqlite? (hspells : Spells native.dataType.toList token) :
    ∀ mapping ∈ ofSqlite? token, Ranging .sqlite native mapping := by
  simp only [ofSqlite?]
  split
  · simp
  next hblob =>
  -- what is left after the tests for other types has none of their parts in its name
  refine ranging_ite (fun _ => .unlimited rfl) fun hbool => ?_
  refine ranging_ite (fun _ => .spanning (spans_int (by decide) _)) fun hint => ?_
  refine ranging_ite (fun _ => .unlimited rfl) fun htext => ?_
  refine ranging_ite (fun _ => .unlimited rfl) fun hdate => ?_
  refine ranging_ite (fun _ => .spanning (spans_float (.finite (Nat.zero_le _)) _))
    fun hreal => ?_
  have hnot : ¬ Mentions token.base earlierParts := by
    rw [← mentions_iff, mentions_earlierParts]
    simp only [Bool.or_eq_true, not_or] at hblob ⊢
    exact ⟨⟨⟨⟨⟨hblob.2, hbool⟩, hint⟩, htext⟩, hdate⟩, hreal⟩
  split
  next hdecimal =>
    have hdeclared := (mentions_iff token.base decimalParts).1 hdecimal
    intro mapping h
    split at h
    next hargs =>
      obtain rfl := Option.some_inj.1 h
      exact .declared _ (.whole hspells hnot hdeclared hargs)
    next hargs =>
      obtain rfl := Option.some_inj.1 h
      exact .declared _ (.scaled hspells hnot hdeclared hargs)
    · obtain rfl := Option.some_inj.1 h
      exact .spanning (spans_float (.finite (Nat.zero_le _)) _)
  · simp

/-- What SQL Server's type tokens are mapped to has a range of one of the kinds. -/
lemma ranging_ofSqlServer? (hspells : Spells native.dataType.toList token) :
    ∀ mapping ∈ ofSqlServer? token native, Ranging .sqlServer native mapping := by
  have hwide {bits : Nat} (hbits : 0 < bits) (unsigned : Bool) :
      Ranging .sqlServer native (int bits unsigned) := .spanning (spans_int hbits unsigned)
  have hfloat {largest : Binary64} (h : AtLeast 0 largest) (unsigned : Bool) :
      Ranging .sqlServer native (float largest unsigned) := .spanning (spans_float h unsigned)
  simp only [ofSqlServer?]
  refine ranging_ite (fun _ => .unlimited rfl) fun _ => ?_
  refine ranging_ite (fun _ => hwide (by decide) _) fun _ => ?_
  refine ranging_ite (fun _ => hwide (by decide) _) fun _ => ?_
  refine ranging_ite (fun _ => hwide (by decide) _) fun _ => ?_
  refine ranging_ite (fun _ => hwide (by decide) _) fun _ => ?_
  refine ranging_ite
    (fun hdecimal => .declared _ (.reported hspells (List.contains_iff_mem.1 hdecimal)))
    fun _ => ?_
  refine ranging_ite (fun _ => hfloat (atLeast_ofInt _) _) fun _ => ?_
  refine ranging_ite (fun _ => hfloat (.finite (Nat.zero_le _)) _) fun _ => ?_
  refine ranging_ite (fun _ => hfloat (atLeast_ofDecimal _ _) _) fun _ => ?_
  refine ranging_ite (fun _ => hfloat (atLeast_ofDecimal _ _) _) fun _ => ?_
  refine ranging_ite (fun _ => .unlimited rfl) fun _ => ?_
  refine ranging_ite (fun _ => .unlimited rfl) fun _ => ?_
  refine ranging_ite (fun _ => .unlimited rfl) fun _ => ?_
  refine ranging_ite (fun _ => .unlimited rfl) fun _ => ?_
  simp

/-- What a native column is mapped to has a range of one of the kinds. -/
lemma ranging_of_ofNative? (h : ofNative? backend native = some mapping) :
    Ranging backend native mapping := by
  obtain ⟨token, htoken, h⟩ := Option.bind_eq_some_iff.1 h
  have hspells := (spells_iff native.dataType).1 htoken
  cases backend with
  | sqlite => exact ranging_ofSqlite? hspells mapping h
  | sqlServer => exact ranging_ofSqlServer? hspells mapping h

/-- A mapping whose range has zero in it is one to numbers, with ends on either side of zero. -/
lemma Spans.exists_range (h : Spans mapping) (hlow : mapping.min = some low)
    (hhigh : mapping.max = some high) :
    (mapping.logicalType = .int ∨ mapping.logicalType = .float) ∧
      low.le zero = true ∧ zero.le high = true := by
  cases h with
  | range htype hzero hzero' =>
    obtain rfl := Option.some_inj.1 hlow
    obtain rfl := Option.some_inj.1 hhigh
    exact ⟨htype, hzero, hzero'⟩

/-- A range that is mapped to is one of numbers. It is empty if digits overflow, and else has zero in it. -/
lemma empty_or_spans (h : ofNative? backend native = some mapping)
    (hlow : mapping.min = some low) (hhigh : mapping.max = some high) :
    (mapping.logicalType = .int ∨ mapping.logicalType = .float) ∧
      (Overflows backend native ∧ low.le high = false ∧ zero.le high = false ∨
        ¬ Overflows backend native ∧ low.le zero = true ∧ zero.le high = true) := by
  -- a declared type is mapped by its digits alone, so only the other case needs the inversion
  by_cases hoverflow : Overflows backend native
  · obtain ⟨precision, scale, hdeclared, hdigits⟩ := id hoverflow
    obtain ⟨unsigned, hdecimal⟩ := ofNative?_of_declaresDecimal hdeclared
    obtain rfl := Option.some_inj.1 (h.symm.trans hdecimal)
    have hnegative : boundExponent precision scale < 0 := (bmod_neg_iff _).2 hdigits
    exact ⟨isNumber_decimal scale, .inl ⟨hoverflow, decimal_empty hnegative hlow hhigh⟩⟩
  · have hspans : Spans mapping := by
      cases ranging_of_ofNative? h with
      | unlimited hnone => cases hnone.symm.trans hlow
      | spanning hspans => exact hspans
      | declared unsigned hdeclared =>
        apply spans_decimal
        intro hnegative
        exact hoverflow ⟨_, _, hdeclared, (bmod_neg_iff _).1 hnegative⟩
    obtain ⟨htype, hrange⟩ := hspans.exists_range hlow hhigh
    exact ⟨htype, .inr ⟨hoverflow, hrange⟩⟩

end RecordAccess.Mapping

namespace RecordAccess.Column

open Binary64 Mapping

variable {backend : Backend} {native : NativeColumn} {column : Column} {low high : Binary64}

/-- A column has the logical type and the range of the mapping that it comes from. -/
lemma exists_mapping (h : Column.ofNative? backend native = some column) :
    ∃ mapping, Mapping.ofNative? backend native = some mapping ∧
      column.logicalType = mapping.logicalType ∧ column.min = mapping.min ∧
      column.max = mapping.max := by
  obtain ⟨mapping, hmapping, hcolumn⟩ := Option.bind_eq_some_iff.1 h
  obtain rfl := Option.some_inj.1 hcolumn
  exact ⟨mapping, hmapping, rfl, rfl, rfl⟩

/-- A column of numbers admits zero if its range has zero in it. -/
lemma admits_zero (htype : column.logicalType = .int ∨ column.logicalType = .float)
    (hlow : column.min = some low) (hhigh : column.max = some high) :
    column.admits (.int 0) = (low.le zero && zero.le high) := by
  have hzero : ofInt (0 : Int64).toInt = zero := by decide +kernel
  have hfloat : (column.coerce (.int 0)).asFloat? = some zero := by
    obtain htype | htype := htype
    · rw [coerce, htype, ← hzero]
      rfl
    · rw [coerce, htype, ← hzero]
      rfl
  rw [admits_of_number htype rfl, hfloat, Option.any_some, inRange, hlow, hhigh, Option.all_some,
    Option.all_some]

/-- A column has a range that is not empty and admits zero, unless its digits before the point overflow.
The end of a decimal range has the exponent of the digits before the point if there are fewer than 2³¹
of them. -/
theorem spans_zero_iff (h : Column.ofNative? backend native = some column)
    (hlow : column.min = some low) (hhigh : column.max = some high) :
    (low.le high = true ↔ ¬ Overflows backend native) ∧
      (column.admits (.int 0) = true ↔ ¬ Overflows backend native) ∧
      ∀ precision scale, DeclaresDecimal native backend precision scale →
        high = belowPower 10 (boundExponent precision scale) ∧
        (boundExponent precision scale = (precision - scale : Nat) ↔
          precision - scale < 2 ^ 31) := by
  obtain ⟨mapping, hmapping, htype, hmin, hmax⟩ := exists_mapping h
  rw [hmin] at hlow
  rw [hmax] at hhigh
  obtain ⟨hnumber, hrange⟩ := empty_or_spans hmapping hlow hhigh
  have hadmits : column.admits (.int 0) = (low.le zero && zero.le high) :=
    admits_zero (by rwa [htype]) (hmin.trans hlow) (hmax.trans hhigh)
  rw [hadmits]
  refine ⟨?_, ?_, ?_⟩
  · obtain ⟨hoverflow, hempty, -⟩ | ⟨hoverflow, hbelow, habove⟩ := hrange
    · simp [hoverflow, hempty]
    · simp [hoverflow, le_trans hbelow habove]
  · obtain ⟨hoverflow, -, hempty⟩ | ⟨hoverflow, hbelow, habove⟩ := hrange
    · simp [hoverflow, hempty]
    · simp [hoverflow, hbelow, habove]
  · intro precision scale hdeclared
    obtain ⟨unsigned, hdecimal⟩ := ofNative?_of_declaresDecimal hdeclared
    obtain rfl := Option.some_inj.1 (hmapping.symm.trans hdecimal)
    exact ⟨(Option.some_inj.1 hhigh).symm, bmod_eq_iff _⟩

/-- A column that SQLite declares with a type. -/
def declared (type : String) : NativeColumn where
  name := "c"
  dataType := type
  maxLength := none
  precision := none
  scale := none
  defaultText := none

/-- A column that declares a decimal type can be read, and it has a range. -/
lemma exists_column {precision scale : Nat} (h : DeclaresDecimal native backend precision scale) :
    ∃ column low high, Column.ofNative? backend native = some column ∧
      column.min = some low ∧ column.max = some high := by
  obtain ⟨unsigned, hmapping⟩ := ofNative?_of_declaresDecimal h
  rw [Column.ofNative?, hmapping]
  exact ⟨_, _, _, rfl, rfl, rfl⟩

/-- The name `decimal` is that of a decimal type, and no earlier test finds a part in it. -/
lemma mentions_decimal :
    ¬ Mentions "decimal" earlierParts ∧ Mentions "decimal" decimalParts := by
  rw [← mentions_iff, ← mentions_iff]
  decide

/-- The price declares five digits before the point and two after it. -/
lemma declares_price : DeclaresDecimal (declared "DECIMAL(7,2)") .sqlite 7 2 := by
  have htoken : TypeToken.ofText? "DECIMAL(7,2)" = some ⟨"decimal", [7, 2], false⟩ := by
    decide +kernel
  exact .scaled ((spells_iff _).1 htoken) mentions_decimal.1 mentions_decimal.2 rfl

/-- A price with five digits before the point is in a range with zero in it. -/
theorem spans_zero_price :
    ∃ column low high, Column.ofNative? .sqlite (declared "DECIMAL(7,2)") = some column ∧
      column.min = some low ∧ column.max = some high ∧ low.le high = true ∧
      column.admits (.int 0) = true ∧ high = belowPower 10 5 := by
  obtain ⟨column, low, high, hcolumn, hlow, hhigh⟩ := exists_column declares_price
  obtain ⟨horder, hadmits, hbound⟩ := spans_zero_iff hcolumn hlow hhigh
  obtain ⟨hpower, hexponent⟩ := hbound 7 2 declares_price
  rw [hexponent.2 (by decide)] at hpower
  have hfits : ¬ Overflows .sqlite (declared "DECIMAL(7,2)") := by
    rintro ⟨precision, scale, hdeclared, hdigits⟩
    obtain ⟨rfl, rfl⟩ := declares_price.unique hdeclared
    exact absurd hdigits (by decide)
  exact ⟨column, low, high, hcolumn, hlow, hhigh, horder.2 hfits, hadmits.2 hfits, hpower⟩

/-- The wide column declares 2³¹ digits, all before the point. -/
lemma declares_wide : DeclaresDecimal (declared "DECIMAL(2147483648)") .sqlite 2147483648 0 := by
  have htoken : TypeToken.ofText? "DECIMAL(2147483648)" =
      some ⟨"decimal", [2147483648], false⟩ := by decide +kernel
  exact .whole ((spells_iff _).1 htoken) mentions_decimal.1 mentions_decimal.2 rfl

/-- The range of a type with 2³¹ digits is empty, though it has that many digits before the point. -/
theorem not_spans_zero_wide :
    ∃ column low high,
      Column.ofNative? .sqlite (declared "DECIMAL(2147483648)") = some column ∧
      column.min = some low ∧ column.max = some high ∧ low.le high = false ∧
      column.admits (.int 0) = false ∧
      DeclaresDecimal (declared "DECIMAL(2147483648)") .sqlite 2147483648 0 ∧
      high = belowPower 10 (boundExponent 2147483648 0) ∧ boundExponent 2147483648 0 < 0 := by
  obtain ⟨column, low, high, hcolumn, hlow, hhigh⟩ := exists_column declares_wide
  obtain ⟨mapping, hmapping, htype, hmin, hmax⟩ := exists_mapping hcolumn
  obtain ⟨unsigned, hdecimal⟩ := ofNative?_of_declaresDecimal declares_wide
  obtain rfl := Option.some_inj.1 (hmapping.symm.trans hdecimal)
  have hnegative : boundExponent 2147483648 0 < 0 := (bmod_neg_iff 2147483648).2 (by decide)
  obtain ⟨horder, habove⟩ := decimal_empty hnegative (hmin.symm.trans hlow) (hmax.symm.trans hhigh)
  have hadmits : column.admits (.int 0) = false := by
    rw [admits_zero (htype ▸ isNumber_decimal 0) hlow hhigh, habove, Bool.and_false]
  have hpower : high = belowPower 10 (boundExponent 2147483648 0) :=
    (Option.some_inj.1 (hmax.symm.trans hhigh)).symm
  exact ⟨column, low, high, hcolumn, hlow, hhigh, horder, hadmits, declares_wide, hpower, hnegative⟩

end RecordAccess.Column
