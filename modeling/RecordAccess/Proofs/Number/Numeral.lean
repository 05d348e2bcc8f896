import Mathlib.Data.Int.Order.Basic
import Mathlib.Tactic.Common
import RecordAccess.Number.Integer

/-!
# Decimal numerals

A numeral is a non-empty text of ASCII digits, and the number it denotes is the library's reading of its
digits (`natural?_eq_some_iff`). A plus sign may stand in front, and the numbers below 2⁶⁴ are read
(`unsigned64?_eq_some_iff`). What is written for an integer of 64 bits is read as that integer
(`readInt64?_integerText`).
-/

namespace RecordAccess

/-- A number and the digits that it is written with. -/
structure Numeral (digits : List Char) (n : Nat) : Prop where
  ne_nil : digits ≠ []
  isDigit : ∀ c ∈ digits, c.isDigit = true
  value : n = Nat.ofDigitChars 10 digits 0

/-- Characters are read on from a number if they are digits, as the number with these digits behind it.
-/
lemma digitsFrom?_eq_some_iff {read n : Nat} {cs : List Char} :
    digitsFrom? read cs = some n ↔
      (∀ c ∈ cs, c.isDigit = true) ∧ n = Nat.ofDigitChars 10 cs read := by
  induction cs generalizing read with
  | nil => exact ⟨fun h => ⟨nofun, (Option.some_inj.1 h).symm⟩, fun h => h.2 ▸ rfl⟩
  | cons c cs ih =>
    rw [digitsFrom?, digit?]
    by_cases hc : c.isDigit = true
    · simp [hc, ih, Nat.ofDigitChars_cons, Nat.mul_comm]
    · simp [hc]

/-- A natural number is read from its numerals, and from no other characters. -/
lemma natural?_eq_some_iff {cs : List Char} {n : Nat} : natural? cs = some n ↔ Numeral cs n := by
  cases cs with
  | nil => exact iff_of_false nofun fun h => h.ne_nil rfl
  | cons c cs =>
    have hread : natural? (c :: cs) = digitsFrom? 0 (c :: cs) := rfl
    rw [hread, digitsFrom?_eq_some_iff]
    exact ⟨fun h => ⟨nofun, h.1, h.2⟩, fun h => ⟨h.isDigit, h.value⟩⟩

/-- The head of a numeral is a digit, so that no sign is one. -/
lemma Numeral.not_cons {c : Char} {cs : List Char} {n : Nat} (hc : c.isDigit = false) :
    ¬ Numeral (c :: cs) n := by
  intro h
  cases hc.symm.trans (h.isDigit c List.mem_cons_self)

/-- A number is read from what follows the plus sign, if there is one. -/
lemma exists_unsigned64?_eq (cs : List Char) :
    ∃ digits, (cs = '+' :: digits ∨ cs = digits ∧ ∀ rest, cs ≠ '+' :: rest) ∧
      unsigned64? cs = (natural? digits).bind fun n => if n < UInt64.size then some n else none := by
  unfold unsigned64?
  split
  · next rest =>
    refine ⟨rest, .inl rfl, ?_⟩
    dsimp only
    cases natural? rest <;> rfl
  · next hplus =>
    refine ⟨cs, .inr ⟨rfl, hplus⟩, ?_⟩
    dsimp only
    cases natural? cs <;> rfl

/-- An unsigned number is read from a numeral below 2⁶⁴, maybe behind a plus sign. -/
lemma unsigned64?_eq_some_iff {cs : List Char} {n : Nat} :
    unsigned64? cs = some n ↔
      ∃ digits, (cs = digits ∨ cs = '+' :: digits) ∧ Numeral digits n ∧ n < UInt64.size := by
  obtain ⟨digits, hdigits, hread⟩ := exists_unsigned64?_eq cs
  have hread : unsigned64? cs = some n ↔ Numeral digits n ∧ n < UInt64.size := by
    simp only [hread, Option.bind_eq_some_iff, natural?_eq_some_iff, Option.ite_none_right_eq_some,
      Option.some.injEq]
    constructor
    · rintro ⟨m, hm, hlt, rfl⟩
      exact ⟨hm, hlt⟩
    · rintro ⟨hn, hlt⟩
      exact ⟨n, hn, hlt, rfl⟩
  rw [hread]
  constructor
  · intro h
    exact ⟨digits, hdigits.symm.imp_left And.left, h⟩
  · rintro ⟨other, hother, h⟩
    obtain rfl | ⟨rfl, hplus⟩ := hdigits
    · obtain rfl | heq := hother
      · exact absurd h.1 (Numeral.not_cons rfl)
      · rwa [(List.cons.inj heq).2]
    · obtain rfl | heq := hother
      · exact h
      · exact absurd heq (hplus other)

/-- The digits of a number are a numeral of it. -/
lemma numeral_toDigits (n : Nat) : Numeral (Nat.toDigits 10 n) n where
  ne_nil := Nat.toDigits_ne_nil
  isDigit := fun _ hc => Nat.isDigit_of_mem_toDigits (by decide) (by decide) hc
  value := Nat.ofDigitChars_ten_toDigits.symm

/-- No digits follow a leading zero. -/
lemma eq_nil_of_toDigits_eq_zero_cons {n : Nat} {cs : List Char}
    (h : Nat.toDigits 10 n = '0' :: cs) : cs = [] := by
  induction n using Nat.strongRecOn generalizing cs with
  | ind n ih =>
    cases Nat.lt_or_ge n 10 with
    | inl hlt =>
      rw [Nat.toDigits_of_lt_base hlt] at h
      exact (List.cons.inj h).2.symm
    | inr hle =>
      rw [Nat.toDigits_of_base_le (by decide) hle] at h
      obtain ⟨hnil, -⟩ | ⟨front, hfront, -⟩ := List.append_eq_cons_iff.1 h
      · exact absurd hnil Nat.toDigits_ne_nil
      · have hzero : n / 10 = 0 := by
          rw [(numeral_toDigits (n / 10)).value, hfront, ih _ (by omega) hfront]
          rfl
        omega

/-- A numeral is read as a number without a sign. -/
lemma signed?_of_numeral {digits : List Char} {n : Nat} (h : Numeral digits n) :
    signed? digits = some n := by
  unfold signed?
  split
  · exact absurd h (Numeral.not_cons rfl)
  · exact absurd h (Numeral.not_cons rfl)
  · rw [natural?_eq_some_iff.2 h]
    rfl

/-- The text of an integer is that of its size, behind a minus sign if it is negative. -/
lemma toList_integerText (n : Int) :
    (integerText n).toList = (if n < 0 then ['-'] else []) ++ Nat.toDigits 10 n.natAbs := by
  unfold integerText
  split <;> simp [naturalText]

/-- The text of an integer is not empty. -/
lemma integerText_ne_nil (n : Int) : (integerText n).toList ≠ [] := by
  simp [toList_integerText, Nat.toDigits_ne_nil]

/-- The text of an integer has only digits and the minus sign in it. -/
lemma eq_minus_or_isDigit_of_mem_integerText {n : Int} {c : Char} (h : c ∈ (integerText n).toList) :
    c = '-' ∨ c.isDigit = true := by
  rw [toList_integerText] at h
  cases List.mem_append.1 h with
  | inl hsign =>
    split at hsign
    · exact .inl (List.mem_singleton.1 hsign)
    · exact absurd hsign List.not_mem_nil
  | inr hdigit => exact .inr ((numeral_toDigits n.natAbs).isDigit c hdigit)

/-- An integer is taken into 64 bits as the one that is equal to it, and only if there is one. -/
lemma int64?_eq_some_iff {n : Int} {k : Int64} : int64? n = some k ↔ k.toInt = n := by
  unfold int64?
  constructor
  · intro h
    split at h
    · next hrange =>
      cases h
      exact Int64.toInt_ofInt_of_le hrange.1 hrange.2
    · cases h
  · rintro rfl
    have hlow := k.le_toInt
    have hhigh := k.toInt_lt
    rw [if_pos ⟨by omega, by omega⟩, Int64.ofInt_toInt]

/-- A 64-bit integer is within the 64-bit range. -/
lemma int64?_toInt (n : Int64) : int64? n.toInt = some n := int64?_eq_some_iff.2 rfl

/-- An integer of 64 bits is read from its text. -/
lemma readInt64?_integerText (n : Int64) : readInt64? (integerText n.toInt).toList = some n := by
  have hsigned : signed? (integerText n.toInt).toList = some n.toInt := by
    rw [toList_integerText]
    have hnumeral := numeral_toDigits n.toInt.natAbs
    split
    · next hneg =>
      have hvalue : -(n.toInt.natAbs : Int) = n.toInt := by omega
      rw [List.singleton_append, signed?, natural?_eq_some_iff.2 hnumeral]
      exact congrArg some hvalue
    · next hneg =>
      have hvalue : (n.toInt.natAbs : Int) = n.toInt := by omega
      rw [List.nil_append, signed?_of_numeral hnumeral]
      exact congrArg some hvalue
  rw [readInt64?, hsigned, Option.bind_some, int64?_toInt]

end RecordAccess
