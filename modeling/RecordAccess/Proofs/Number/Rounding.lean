import Mathlib.Order.Monotone.Basic
import RecordAccess.Proofs.Number.Exact

/-!
# Integers that are rounded

An integer becomes a floating-point number by rounding. It stays what it is if and only if its bits fit
into the significand (`FitsSignificand`), that is, if they are at most fifty-three from the first one to
the last one. For integers of 64 bits this is `rational?_ofInt_eq_iff`.

Finite numbers are equal if they denote the same rational number, and no infinity is equal to one of them
(`same_iff_of_rational?`).
-/

namespace RecordAccess.Binary64

variable {x y : Binary64} {n : Int}

/-- Numbers are the same if they have the same units. -/
lemma same_iff : x.same y = true ↔ ∃ units, x.units? = some units ∧ y.units? = some units := by
  unfold same
  cases hx : x.units? with
  | none => simp
  | some a =>
    cases hy : y.units? with
    | none => simp
    | some b =>
      simp only [beq_iff_eq, Option.some.injEq, exists_eq_left']
      exact eq_comm

/-- To be the same is symmetric. -/
lemma same_comm (x y : Binary64) : x.same y = y.same x := by
  rw [Bool.eq_iff_iff, same_iff, same_iff]
  simp only [and_comm]

/-- To be the same is transitive. -/
lemma same_trans {z : Binary64} (hxy : x.same y = true) (hyz : y.same z = true) :
    x.same z = true := by
  obtain ⟨units, hx, hy⟩ := same_iff.1 hxy
  obtain ⟨units', hy', hz⟩ := same_iff.1 hyz
  obtain rfl := Option.some_inj.1 (hy.symm.trans hy')
  exact same_iff.2 ⟨units, hx, hz⟩

/-- A higher rank has a greater magnitude. -/
lemma magnitude_lt_magnitude {m n : Nat} (h : m < n) : magnitude m < magnitude n :=
  strictMono_nat_of_lt_succ magnitude_lt_succ h

/-- A finite number has units, which say the rational number that it denotes. -/
lemma exists_units?_of_finite (negative : Bool) (rank : Fin 0x7FF0000000000000) :
    ∃ units : Int, (finite negative rank).units? = some units ∧
      (finite negative rank).rational? = some ((units : ℚ) / (unitsPerOne : ℚ)) ∧
      units.natAbs < magnitude rankCount := by
  refine ⟨_, rfl, rational?_finite negative rank, ?_⟩
  rw [natAbs_signed]
  exact magnitude_lt_magnitude rank.isLt

/-- A finite number equals the numbers that denote the same rational number. -/
lemma same_iff_of_rational? {p : ℚ} (hx : x.rational? = some p) :
    x.same y = true ↔ y.rational? = some p := by
  cases x with
  | nan => cases rational?_nan.symm.trans hx
  | infinite negative => cases (rational?_infinite negative).symm.trans hx
  | finite negative rank =>
    obtain ⟨units, hunits, hrational, hlt⟩ := exists_units?_of_finite negative rank
    obtain rfl := Option.some_inj.1 (hrational.symm.trans hx)
    rw [same_iff, hunits]
    cases y with
    | nan => simp [rational?_nan, units?]
    | infinite negative' =>
      have hne : units ≠ signed negative' (magnitude rankCount) := by
        rintro rfl
        rw [natAbs_signed] at hlt
        exact Nat.lt_irrefl _ hlt
      simp [rational?_infinite, units?, hne.symm]
    | finite negative' rank' =>
      obtain ⟨units', hunits', hrational', -⟩ := exists_units?_of_finite negative' rank'
      have hne : (unitsPerOne : ℚ) ≠ 0 := by exact_mod_cast unitsPerOne_pos.ne'
      rw [hunits', hrational']
      simp [div_left_inj' hne, eq_comm]

/-- Whether the bits of an integer, from the first one to the last one, are at most fifty-three. -/
def FitsSignificand (n : Int) : Prop := ∃ m k : Nat, m < 2 ^ 53 ∧ n.natAbs = m * 2 ^ k

/-- Integers below 2⁵³ fit into the significand. -/
lemma fitsSignificand_of_lt (h : n.natAbs < 2 ^ 53) : FitsSignificand n :=
  ⟨n.natAbs, 0, h, by rw [pow_zero, mul_one]⟩

/-- The units in one are a power of two. -/
lemma exists_unitsPerOne_eq : ∃ u, u = 1074 ∧ unitsPerOne = 2 ^ u := by
  have hshift (u : Nat) (h : u = 1074) : unitsPerOne = 1 <<< u := by rw [h, unitsPerOne]
  obtain ⟨u, hu⟩ : ∃ u, u = 1074 := ⟨_, rfl⟩
  exact ⟨u, hu, (hshift u hu).trans (Nat.one_shiftLeft u)⟩

/-- The magnitude of the rank with an exponent and a fraction. -/
lemma magnitude_of_fields {e f : Nat} (he : 1 ≤ e) (hf : f < binade) :
    magnitude (e * binade + f) = (binade + f) * 2 ^ (e - 1) := by
  have hle : binade ≤ e * binade + f :=
    Nat.le_trans (Nat.le_mul_of_pos_left _ he) (Nat.le_add_right _ _)
  have hdiv : (e * binade + f) / binade = e := by
    rw [Nat.mul_comm, Nat.mul_add_div (by decide), Nat.div_eq_of_lt hf, Nat.add_zero]
  have hmod : (e * binade + f) % binade = f := by
    rw [Nat.mul_comm, Nat.mul_add_mod, Nat.mod_eq_of_lt hf]
  rw [magnitude_of_le hle, hdiv, hmod]

/-- A magnitude is a number below 2⁵³ times a power of two. -/
lemma exists_magnitude_eq (rank : Nat) : ∃ m e, m < 2 ^ 53 ∧ magnitude rank = m * 2 ^ e := by
  refine ⟨_, _, ?_, magnitude_eq rank⟩
  have hmod : rank % binade < binade := Nat.mod_lt _ (by decide)
  have hbinade : binade + binade = 2 ^ 53 := rfl
  split <;> omega

/-- A number denotes no other integers. -/
lemma fitsSignificand_of_toInt? (h : x.toInt? = some n) : FitsSignificand n := by
  cases x with
  | nan => cases h
  | infinite negative => cases h
  | finite negative rank =>
    obtain ⟨u, -, hu⟩ := exists_unitsPerOne_eq
    obtain ⟨m, e, hlt, hmagnitude⟩ := exists_magnitude_eq rank
    have hsize : n.natAbs * 2 ^ u = m * 2 ^ e := by
      have := congrArg Int.natAbs (toInt?_finite_eq_some_iff.1 h)
      rw [natAbs_signed, Int.natAbs_mul, Int.natAbs_natCast, hu, hmagnitude] at this
      exact this.symm
    by_cases he : u ≤ e
    · refine ⟨m, e - u, hlt, Nat.eq_of_mul_eq_mul_right (Nat.two_pow_pos u) ?_⟩
      rw [hsize, Nat.mul_assoc, ← Nat.pow_add, Nat.sub_add_cancel he]
    · -- the number is given in parts of one, so that the integer is no larger than `m`
      refine fitsSignificand_of_lt (Nat.lt_of_le_of_lt ?_ hlt)
      have hparts : n.natAbs * 2 ^ (u - e) = m := by
        refine Nat.eq_of_mul_eq_mul_right (Nat.two_pow_pos e) ?_
        rw [Nat.mul_assoc, ← Nat.pow_add, Nat.sub_add_cancel (by omega), hsize]
      exact hparts ▸ Nat.le_mul_of_pos_right _ (Nat.two_pow_pos _)

/-- An integer within the significand is denoted by a number. -/
lemma exists_toInt?_eq (hn : n.natAbs ≤ 2 ^ 63) (h : FitsSignificand n) :
    ∃ x : Binary64, x.toInt? = some n := by
  obtain ⟨m, k, hlt, hnm⟩ := h
  by_cases hm : m = 0
  · have hzero : n = 0 := by simpa [hm] using hnm
    exact ⟨zero, by rw [hzero]; decide +kernel⟩
  obtain ⟨u, hu, hunits⟩ := exists_unitsPerOne_eq
  have hlog : m.log2 ≤ 52 := Nat.lt_succ_iff.1 ((Nat.log2_lt hm).2 hlt)
  -- shifted up, the first bit of `m` is the one in front of the fraction
  obtain ⟨f, hf⟩ : ∃ f, m * 2 ^ (52 - m.log2) = binade + f := by
    refine Nat.exists_eq_add_of_le ?_
    have := Nat.mul_le_mul_right (2 ^ (52 - m.log2)) (Nat.log2_self_le hm)
    rwa [← Nat.pow_add, Nat.add_sub_cancel' hlog] at this
  have hfraction : f < binade := by
    have := Nat.mul_lt_mul_of_pos_right (Nat.lt_log2_self (n := m)) (Nat.two_pow_pos (52 - m.log2))
    rw [← Nat.pow_add, hf, show m.log2 + 1 + (52 - m.log2) = 53 by omega] at this
    have hbinade : binade + binade = 2 ^ 53 := rfl
    omega
  have hexponent : m.log2 + k ≤ 63 := by
    have := Nat.mul_le_mul_right (2 ^ k) (Nat.log2_self_le hm)
    rw [← Nat.pow_add, ← hnm] at this
    exact (Nat.pow_le_pow_iff_right (by decide)).1 (Nat.le_trans this hn)
  have hrank : (k + 1023 + m.log2) * binade + f < 0x7FF0000000000000 := by
    simp only [binade] at hfraction ⊢
    omega
  refine ⟨finite (decide (n < 0)) ⟨_, hrank⟩, toInt?_finite_eq_some_iff.2 ?_⟩
  have hmagnitude : magnitude ((k + 1023 + m.log2) * binade + f) = n.natAbs * unitsPerOne := by
    have hshift : 52 - m.log2 + (k + 1023 + m.log2 - 1) = k + u := by omega
    rw [magnitude_of_fields (by omega) hfraction, ← hf, hnm, hunits, Nat.mul_assoc, Nat.mul_assoc,
      ← Nat.pow_add, ← Nat.pow_add, hshift]
  rw [hmagnitude, signed_mul, signed_natAbs]

/-- The nearest rank of an integer is at most the next one above its leading bits. -/
lemma nearestRank_le (num : Nat) :
    nearestRank num 1 ≤ (num.log2 - 52) * binade + num >>> (num.log2 - 52) + 1 := by
  simp only [nearestRank, Nat.div_one, Nat.mul_one]
  split
  · omega
  · split <;> omega

/-- An integer of 64 bits is rounded to a finite number. -/
lemma exists_ofInt_eq (hn : n.natAbs ≤ 2 ^ 63) :
    ∃ negative rank, ofInt n = finite negative rank := by
  obtain ⟨u, hu, hunits⟩ := exists_unitsPerOne_eq
  generalize hnum : (n * unitsPerOne).natAbs = num
  have hlog : num.log2 - 52 ≤ 1085 := by
    by_cases hzero : num = 0
    · simp [hzero]
    have hle : num ≤ 2 ^ (63 + u) := by
      rw [← hnum, Int.natAbs_mul, Int.natAbs_natCast, hunits, Nat.pow_add]
      exact Nat.mul_le_mul_right _ hn
    have := Nat.lt_succ_iff.1 ((Nat.log2_lt hzero).2 (Nat.lt_of_le_of_lt hle
      (Nat.pow_lt_pow_succ (by decide))))
    omega
  have hshift : num >>> (num.log2 - 52) < 2 ^ 53 := by
    rw [Nat.shiftRight_eq_div_pow, Nat.div_lt_iff_lt_mul (Nat.two_pow_pos _), ← Nat.pow_add]
    exact Nat.lt_of_lt_of_le Nat.lt_log2_self (Nat.pow_le_pow_right (by decide) (by omega))
  have hrank : nearestRank num 1 < 0x7FF0000000000000 := by
    have hnearest := nearestRank_le num
    have := Nat.mul_le_mul_right binade hlog
    simp only [binade] at hnearest this
    omega
  refine ⟨decide (n * unitsPerOne < 0), ⟨_, hrank⟩, ?_⟩
  rw [ofInt, ofUnits, ofRatio, hnum, dif_pos hrank]

/-- An integer is rounded to itself if and only if it fits into the significand. -/
lemma rational?_ofInt_eq_iff (hn : n.natAbs ≤ 2 ^ 63) :
    (ofInt n).rational? = some (n : ℚ) ↔ FitsSignificand n := by
  constructor
  · intro h
    exact fitsSignificand_of_toInt? (toInt?_eq_some_iff.2 h)
  · intro h
    obtain ⟨x, hx⟩ := exists_toInt?_eq hn h
    have hrational := toInt?_eq_some_iff.1 hx
    refine (same_iff_of_rational? hrational).1 ?_
    obtain ⟨negative, rank, hofInt⟩ := exists_ofInt_eq hn
    obtain ⟨units, hunits, -⟩ := exists_units?_of_finite negative rank
    rw [← hofInt] at hunits
    exact same_iff.2 ⟨units, units?_ofInt hx ▸ hunits, hunits⟩

end RecordAccess.Binary64
