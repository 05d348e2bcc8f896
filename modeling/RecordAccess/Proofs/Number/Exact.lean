import Mathlib.Data.Rat.Lemmas
import Mathlib.Tactic.Common
import Mathlib.Tactic.NormNum
import Mathlib.Tactic.Positivity
import Mathlib.Tactic.Ring
import RecordAccess.Number.Binary64

/-!
# The numbers that bits denote

The sixty-four bits of a finite number denote a rational number (`rational?`): a sign, a fraction with a
one in front unless the exponent field is zero, and a power of two. It is the number's count of units
over the units in one (`rational?_finite`).

Magnitudes grow with the rank (`magnitude_lt_succ`), so that the magnitude of a rank is rounded to that
rank (`nearestRank_magnitude`). An integer that some number denotes is therefore not rounded
(`units?_ofInt`).
-/

namespace RecordAccess.Binary64

/-- The eleven bits of the exponent. -/
def exponentField (bits : Nat) : Nat := bits / binade % 0x800

/-- The fraction, with a one in front of its fifty-two bits unless the exponent field is zero. -/
def significand (bits : Nat) : Nat :=
  if exponentField bits = 0 then bits % binade else binade + bits % binade

/-- The rational number that the bits of a finite number denote. -/
def rational? (x : Binary64) : Option ℚ :=
  let bits := x.toBits
  let size : ℚ := significand bits * 2 ^ (((max (exponentField bits) 1 : ℕ) : ℤ) - 1075)
  if exponentField bits = 0x7FF then none
  else some (if bits / 0x8000000000000000 % 2 = 1 then -size else size)

/-- The ranks of the first binade are their own magnitudes. -/
lemma magnitude_of_lt {rank : Nat} (h : rank < binade) : magnitude rank = rank := if_pos h

/-- From the second binade on, a magnitude is the fraction with a one before it, shifted by the binade.
-/
lemma magnitude_of_le {rank : Nat} (h : binade ≤ rank) :
    magnitude rank = (binade + rank % binade) * 2 ^ (rank / binade - 1) := by
  rw [magnitude, if_neg (Nat.not_lt.2 h), Nat.shiftLeft_eq]

/-- Magnitudes grow with the rank. -/
lemma magnitude_lt_succ (rank : Nat) : magnitude rank < magnitude (rank + 1) := by
  by_cases hlt : rank + 1 < binade
  · rw [magnitude_of_lt (by omega), magnitude_of_lt hlt]
    exact Nat.lt_succ_self rank
  by_cases hfirst : rank < binade
  · have hnext : rank + 1 = binade := by omega
    have hmagnitude : magnitude binade = binade := by decide +kernel
    rw [magnitude_of_lt hfirst, hnext, hmagnitude]
    exact hfirst
  have hle : binade ≤ rank := by omega
  rw [magnitude_of_le hle, magnitude_of_le (by omega)]
  by_cases hlast : rank % binade + 1 < binade
  · have hdiv : (rank + 1) / binade = rank / binade := by simp only [binade] at *; omega
    have hmod : (rank + 1) % binade = rank % binade + 1 := by simp only [binade] at *; omega
    rw [hdiv, hmod]
    exact Nat.mul_lt_mul_of_pos_right (by omega) (by positivity)
  · -- from the next rank on the distance is twice as large
    have hdiv : (rank + 1) / binade - 1 = rank / binade - 1 + 1 := by
      simp only [binade] at *
      omega
    have hmod : (rank + 1) % binade = 0 := by simp only [binade] at *; omega
    have hbound : rank % binade < binade := Nat.mod_lt _ (by decide)
    rw [hdiv, hmod, Nat.pow_succ, Nat.mul_comm (2 ^ _) 2, ← Nat.mul_assoc]
    exact Nat.mul_lt_mul_of_pos_right (by omega) (by positivity)

/-- The leading bit of the magnitudes of a binade. -/
lemma log2_magnitude {rank : Nat} (h : binade ≤ rank) :
    (magnitude rank).log2 = 52 + (rank / binade - 1) := by
  have hbinade : binade = 2 ^ 52 := rfl
  have hmod : rank % binade < binade := Nat.mod_lt _ (by decide)
  have hlow : 2 ^ (52 + (rank / binade - 1)) ≤ magnitude rank := by
    rw [magnitude_of_le h, Nat.pow_add, ← hbinade]
    exact Nat.mul_le_mul_right _ (Nat.le_add_right _ _)
  have hhigh : magnitude rank < 2 ^ (52 + (rank / binade - 1) + 1) := by
    rw [magnitude_of_le h, Nat.add_right_comm, Nat.pow_add, Nat.pow_succ, ← hbinade]
    exact Nat.mul_lt_mul_of_pos_right (by omega) (by positivity)
  have hne : magnitude rank ≠ 0 := (Nat.lt_of_lt_of_le (by positivity) hlow).ne'
  exact (Nat.log2_eq_iff hne).2 ⟨hlow, hhigh⟩

/-- Without its last bits a magnitude is found at its rank. -/
lemma below_magnitude (rank : Nat) :
    ((magnitude rank).log2 - 52) * binade + magnitude rank >>> ((magnitude rank).log2 - 52) =
      rank := by
  by_cases hlt : rank < binade
  · have hlog : rank.log2 - 52 = 0 := by
      by_cases hzero : rank = 0
      · simp [hzero]
      · have := (Nat.log2_lt hzero).2 (show rank < 2 ^ 52 from hlt)
        omega
    rw [magnitude_of_lt hlt, hlog]
    simp
  · have hle : binade ≤ rank := Nat.not_lt.1 hlt
    have hdiv : 1 ≤ rank / binade := (Nat.one_le_div_iff (by decide)).2 hle
    have hparts := Nat.div_add_mod' rank binade
    have hfirst : binade ≤ rank / binade * binade := Nat.le_mul_of_pos_left _ hdiv
    rw [log2_magnitude hle, Nat.add_sub_cancel_left, magnitude_of_le hle,
      Nat.shiftRight_eq_div_pow, Nat.mul_div_cancel _ (by positivity), Nat.sub_mul, Nat.one_mul]
    omega

/-- The magnitude of a rank is rounded to that rank. -/
lemma nearestRank_magnitude (rank : Nat) : nearestRank (magnitude rank) 1 = rank := by
  -- it lies before the midpoint to the next rank
  have hnext := magnitude_lt_succ rank
  simp only [nearestRank, Nat.div_one, Nat.mul_one, below_magnitude]
  exact if_pos (by omega)

/-- A sign leaves the size. -/
lemma natAbs_signed (negative : Bool) (size : Nat) : (signed negative size).natAbs = size := by
  cases negative <;> simp [signed]

/-- An integer is its size with its sign. -/
lemma signed_natAbs (n : Int) : signed (decide (n < 0)) n.natAbs = n := by
  by_cases h : n < 0
  · simp only [signed, h, decide_true, if_true]
    omega
  · simp only [signed, h, decide_false, Bool.false_eq_true, if_false]
    omega

/-- A sign stays in front of a product. -/
lemma signed_mul (negative : Bool) (m n : Nat) :
    signed negative (m * n) = signed negative m * n := by
  cases negative <;> simp [signed]

/-- A one shifted left is a power of two, as a rational number. -/
lemma cast_one_shiftLeft (k : Nat) : ((1 <<< k : ℕ) : ℚ) = 2 ^ (k : ℤ) := by
  rw [Nat.shiftLeft_eq, Nat.one_mul, Nat.cast_pow, Nat.cast_ofNat, zpow_natCast]

/-- There are units in one. -/
lemma unitsPerOne_pos : 0 < unitsPerOne := by decide +kernel

/-- A count of units that a finite number has is not rounded. -/
lemma units?_ofUnits {units : Int} (rank : Fin 0x7FF0000000000000)
    (h : units.natAbs = magnitude rank) : (ofUnits units).units? = some units := by
  have hrank : nearestRank units.natAbs 1 = rank := h ▸ nearestRank_magnitude rank
  have hfinite : ofUnits units = finite (decide (units < 0)) rank := by
    simp [ofUnits, ofRatio, hrank]
  rw [hfinite, units?, ← h, signed_natAbs]

/-- A finite number denotes an integer if its units are those of that many ones. -/
lemma toInt?_finite_eq_some_iff {negative : Bool} {rank : Fin 0x7FF0000000000000} {n : Int} :
    (finite negative rank).toInt? = some n ↔
      signed negative (magnitude rank) = n * unitsPerOne := by
  have hpos : (0 : Int) < unitsPerOne := by exact_mod_cast unitsPerOne_pos
  constructor
  · intro h
    simp only [toInt?] at h
    split at h
    · next hmod =>
      cases h
      rw [← signed_mul, Nat.div_mul_cancel (Nat.dvd_of_mod_eq_zero hmod)]
    · cases h
  · intro h
    have hsize : magnitude rank = n.natAbs * unitsPerOne := by
      have := congrArg Int.natAbs h
      rwa [natAbs_signed, Int.natAbs_mul, Int.natAbs_natCast] at this
    have hdiv : magnitude rank / unitsPerOne * unitsPerOne = magnitude rank :=
      Nat.div_mul_cancel ⟨n.natAbs, by rw [hsize, Nat.mul_comm]⟩
    have hsigned : signed negative (magnitude rank / unitsPerOne) = n := by
      rw [← hdiv, signed_mul] at h
      exact Int.eq_of_mul_eq_mul_right hpos.ne' h
    rw [toInt?, if_pos (by rw [hsize, Nat.mul_mod_left]), hsigned]

/-- An integer that some number denotes is not rounded. -/
lemma units?_ofInt {x : Binary64} {n : Int} (h : x.toInt? = some n) :
    (ofInt n).units? = x.units? := by
  cases x with
  | nan => cases h
  | infinite negative => cases h
  | finite negative rank =>
    have hunits := toInt?_finite_eq_some_iff.1 h
    rw [units?, hunits]
    exact units?_ofUnits rank (by rw [← hunits, natAbs_signed])

/-- The fields of the bits are those of the rank, after the sign. -/
lemma fields_finite (negative : Bool) (rank : Fin 0x7FF0000000000000) :
    exponentField (finite negative rank).toBits = rank / binade ∧
      significand (finite negative rank).toBits =
        (if rank / binade = 0 then rank % binade else binade + rank % binade) ∧
      ((finite negative rank).toBits / 0x8000000000000000 % 2 = 1 ↔ negative = true) := by
  have hrank := rank.isLt
  have hexponent : exponentField (finite negative rank).toBits = rank / binade := by
    cases negative <;> simp [exponentField, toBits, binade] <;> omega
  have hfraction : (finite negative rank).toBits % binade = rank % binade := by
    cases negative with
    | false => simp [toBits]
    | true =>
      simp only [toBits, if_true, binade]
      omega
  refine ⟨hexponent, by rw [significand, hexponent, hfraction], ?_⟩
  cases negative <;> simp [toBits] <;> omega

/-- The magnitude of a rank is the significand of its bits, shifted by the exponent field. -/
lemma magnitude_eq (rank : Nat) :
    magnitude rank = (if rank / binade = 0 then rank % binade else binade + rank % binade) *
      2 ^ (max (rank / binade) 1 - 1) := by
  by_cases hlt : rank < binade
  · rw [magnitude_of_lt hlt, Nat.div_eq_of_lt hlt, Nat.mod_eq_of_lt hlt]
    simp
  · have hle : binade ≤ rank := Nat.not_lt.1 hlt
    have hdiv : 1 ≤ rank / binade := (Nat.one_le_div_iff (by decide)).2 hle
    rw [magnitude_of_le hle, if_neg (by omega), max_eq_left hdiv]

/-- The rational number of a finite number is its units over those in one. -/
lemma rational?_finite (negative : Bool) (rank : Fin 0x7FF0000000000000) :
    (finite negative rank).rational? =
      some ((signed negative (magnitude rank) : ℚ) / (unitsPerOne : ℚ)) := by
  obtain ⟨hexponent, hsignificand, hsign⟩ := fields_finite negative rank
  have hnormal : (rank : Nat) / binade ≠ 0x7FF := by
    have hrank := rank.isLt
    simp only [binade]
    omega
  have hpower : (2 : ℚ) ^ (((max (rank / binade) 1 : ℕ) : ℤ) - 1075) =
      2 ^ (max (rank / binade) 1 - 1) / unitsPerOne := by
    have hcast : ((max (rank / binade) 1 : ℕ) : ℤ) - 1075 =
        (max (rank / binade) 1 - 1 : ℕ) - (1074 : ℕ) := by omega
    rw [hcast, zpow_sub₀ (by norm_num), zpow_natCast, unitsPerOne, cast_one_shiftLeft]
  have hsize : (significand (finite negative rank).toBits : ℚ) *
      2 ^ (((max (rank / binade) 1 : ℕ) : ℤ) - 1075) = magnitude rank / unitsPerOne := by
    rw [hpower, hsignificand, magnitude_eq rank, Nat.cast_mul, Nat.cast_pow, Nat.cast_ofNat,
      mul_div_assoc]
  simp only [rational?, hexponent, hsize, if_neg hnormal, hsign]
  cases negative <;> simp [signed, neg_div]

/-- What is not a number denotes no rational number. -/
lemma rational?_nan : nan.rational? = none := by decide +kernel

/-- The infinities denote no rational number. -/
lemma rational?_infinite (negative : Bool) : (infinite negative).rational? = none := by
  cases negative <;> decide +kernel

/-- A number denotes an integer if its bits do. -/
lemma toInt?_eq_some_iff {x : Binary64} {n : Int} :
    x.toInt? = some n ↔ x.rational? = some (n : ℚ) := by
  cases x with
  | nan => simp [toInt?, rational?_nan]
  | infinite negative => simp [toInt?, rational?_infinite]
  | finite negative rank =>
    have hne : (unitsPerOne : ℚ) ≠ 0 := by exact_mod_cast unitsPerOne_pos.ne'
    rw [toInt?_finite_eq_some_iff, rational?_finite, Option.some_inj, div_eq_iff hne]
    exact_mod_cast Iff.rfl

end RecordAccess.Binary64
