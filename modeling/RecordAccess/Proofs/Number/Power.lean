import RecordAccess.Proofs.Number.Rounding

/-!
# Powers that are rounded

The nearest rank lies on the same side of a rank as the number that is rounded (`le_nearestRank`,
`nearestRank_le_of_le`), so that products of numbers from one on are no smaller than their factors
(`AtLeast.mul`), and a power by repeated squaring is at least its base (`AtLeast.powAux`). Therefore a
power is at least one where the exponent is not negative (`AtLeast.pow`). Where the exponent is negative,
the power less one is negative too, since the reciprocal of a power is at most one half
(`AtLeast.neg_pow_sub_one`).
-/

namespace RecordAccess.Binary64

variable {x y base : Binary64} {rank : Nat}

/-- A higher rank has no smaller magnitude. -/
lemma magnitude_le_magnitude {m n : Nat} (h : m ≤ n) : magnitude m ≤ magnitude n :=
  (strictMono_nat_of_lt_succ magnitude_lt_succ).monotone h

/-- A magnitude that is no smaller is one of a rank that is no lower. -/
lemma le_of_magnitude_le {m n : Nat} (h : magnitude m ≤ magnitude n) : m ≤ n :=
  (strictMono_nat_of_lt_succ magnitude_lt_succ).le_iff_le.1 h

/-- A greater magnitude is one of a higher rank. -/
lemma lt_of_magnitude_lt {m n : Nat} (h : magnitude m < magnitude n) : m < n :=
  (strictMono_nat_of_lt_succ magnitude_lt_succ).lt_iff_lt.1 h

/-- The magnitudes of a binade, up to the first one of the next. -/
lemma magnitude_of_binade {s q : Nat} (hlow : binade ≤ q) (hhigh : q ≤ 2 * binade) :
    magnitude (s * binade + q) = q * 2 ^ s := by
  obtain ⟨f, rfl⟩ := Nat.exists_eq_add_of_le hlow
  by_cases hlast : f < binade
  · have hrank : s * binade + (binade + f) = (s + 1) * binade + f := by ring
    rw [hrank, magnitude_of_fields (by omega) hlast, Nat.add_sub_cancel]
  · obtain rfl : f = binade := by omega
    have hrank : s * binade + (binade + binade) = (s + 2) * binade + 0 := by ring
    rw [hrank, magnitude_of_fields (by omega) (by decide), show s + 2 - 1 = s + 1 by omega]
    ring

/-- A whole number lies between two neighbouring magnitudes. -/
lemma magnitude_le_lt (whole : Nat) :
    magnitude ((whole.log2 - 52) * binade + whole >>> (whole.log2 - 52)) ≤ whole ∧
      whole < magnitude ((whole.log2 - 52) * binade + whole >>> (whole.log2 - 52) + 1) := by
  by_cases hsmall : whole < binade
  · have hself := below_magnitude whole
    have hnext := magnitude_lt_succ whole
    rw [magnitude_of_lt hsmall] at hself hnext
    rw [hself]
    exact ⟨(magnitude_of_lt hsmall).le, hnext⟩
  · have hne : whole ≠ 0 := by
      rintro rfl
      exact hsmall (by decide)
    have hlog : 52 ≤ whole.log2 := (Nat.le_log2 hne).2 (Nat.not_lt.1 hsmall)
    obtain ⟨s, hs⟩ := Nat.exists_eq_add_of_le hlog
    have hbinade : binade = 2 ^ 52 := rfl
    have hlow : binade ≤ whole / 2 ^ s := by
      rw [Nat.le_div_iff_mul_le (Nat.two_pow_pos s), hbinade, ← Nat.pow_add, ← hs]
      exact Nat.log2_self_le hne
    have hhigh : whole / 2 ^ s < 2 * binade := by
      have hdouble : 2 * binade * 2 ^ s = 2 ^ (whole.log2 + 1) := by
        rw [hs, hbinade]
        ring
      rw [Nat.div_lt_iff_lt_mul (Nat.two_pow_pos s), hdouble]
      exact Nat.lt_log2_self
    rw [hs, Nat.add_sub_cancel_left, Nat.shiftRight_eq_div_pow, Nat.add_assoc,
      magnitude_of_binade hlow hhigh.le, magnitude_of_binade (by omega) hhigh]
    refine ⟨Nat.div_mul_le_self _ _, ?_⟩
    rw [Nat.succ_mul]
    exact Nat.lt_div_mul_add (Nat.two_pow_pos s)

/-- What is no less than a magnitude is rounded to no lower rank. -/
lemma le_nearestRank {num den : Nat} (hden : 0 < den) (h : magnitude rank * den ≤ num) :
    rank ≤ nearestRank num den := by
  obtain ⟨-, hlt⟩ := magnitude_le_lt (num / den)
  have hwhole : magnitude rank ≤ num / den := (Nat.le_div_iff_mul_le hden).2 h
  have hbelow := lt_of_magnitude_lt (Nat.lt_of_le_of_lt hwhole hlt)
  simp only [nearestRank]
  split
  · omega
  · split <;> omega

/-- What is no more than a magnitude is rounded to no higher rank. -/
lemma nearestRank_le_of_le {num den : Nat} (hden : 0 < den) (h : num ≤ magnitude rank * den) :
    nearestRank num den ≤ rank := by
  obtain ⟨hle, -⟩ := magnitude_le_lt (num / den)
  have hwhole : num / den ≤ magnitude rank := by
    rw [← Nat.mul_div_cancel (magnitude rank) hden]
    exact Nat.div_le_div_right h
  simp only [nearestRank]
  generalize (num / den).log2 - 52 = s at hle ⊢
  generalize s * binade + (num / den) >>> s = below at hle ⊢
  have hrank : below ≤ rank := le_of_magnitude_le (Nat.le_trans hle hwhole)
  split
  · exact hrank
  next hmiddle =>
    -- a number beyond the middle is not that of the lower rank
    have hlt : below < rank := by
      apply Nat.lt_of_le_of_ne hrank
      rintro rfl
      have hnext := Nat.mul_lt_mul_of_pos_right (magnitude_lt_succ below) hden
      apply hmiddle
      rw [Nat.add_mul]
      omega
    split <;> omega

/-- A number is no less than the one of a rank. -/
inductive AtLeast (rank : Nat) : Binary64 → Prop where
  | finite {n} :
    rank ≤ n.val →
    AtLeast rank (.finite false n)
  | infinite :
    AtLeast rank (.infinite false)

/-- The rank of one half. -/
def halfRank : Nat := 0x3FE0000000000000

/-- The rank of one. -/
def oneRank : Nat := 0x3FF0000000000000

/-- The rank of two. -/
def twoRank : Nat := 0x4000000000000000

/-- The rank of one has the magnitude of one. -/
lemma magnitude_oneRank : magnitude oneRank = unitsPerOne := by decide +kernel

/-- The rank of one half has half the magnitude of one. -/
lemma magnitude_halfRank : 2 * magnitude halfRank = unitsPerOne := by decide +kernel

/-- The rank of two has twice the magnitude of one. -/
lemma magnitude_twoRank : magnitude twoRank = 2 * unitsPerOne := by decide +kernel

/-- A number that is at least the one of a rank is at least those of the lower ranks. -/
lemma AtLeast.mono {rank' : Nat} (h : AtLeast rank x) (hle : rank' ≤ rank) : AtLeast rank' x := by
  cases h with
  | finite hn => exact .finite (Nat.le_trans hle hn)
  | infinite => exact .infinite

/-- A ratio is rounded to a number of its nearest rank, at the least. -/
lemma atLeast_ofRatio {num den : Nat} (h : rank ≤ nearestRank num den) :
    AtLeast rank (ofRatio false num den) := by
  simp only [ofRatio]
  split
  · exact .finite h
  · exact .infinite

/-- A number that is at least one does not make another one smaller by multiplication. -/
lemma AtLeast.mul (hx : AtLeast oneRank x) (hy : AtLeast rank y) (hpos : 0 < rank) :
    AtLeast rank (x.mul y) := by
  cases hx with
  | @finite m hm =>
    cases hy with
    | @finite n hn =>
      have hproduct : magnitude rank * unitsPerOne ≤ magnitude m * magnitude n := by
        rw [Nat.mul_comm, ← magnitude_oneRank]
        exact Nat.mul_le_mul (magnitude_le_magnitude hm) (magnitude_le_magnitude hn)
      simp only [Binary64.mul, bne_self_eq_false]
      exact atLeast_ofRatio (le_nearestRank unitsPerOne_pos hproduct)
    | infinite =>
      have hne : m.val ≠ 0 := (Nat.lt_of_lt_of_le (by decide) hm).ne'
      simp only [Binary64.mul, if_neg hne]
      exact .infinite
  | infinite =>
    cases hy with
    | @finite n hn =>
      have hne : n.val ≠ 0 := (Nat.lt_of_lt_of_le hpos hn).ne'
      simp only [Binary64.mul, if_neg hne]
      exact .infinite
    | infinite => exact .infinite

/-- A running product from one on stays so, and takes in the base at the last digit of the exponent. -/
lemma AtLeast.powAux {result : Binary64} (hresult : AtLeast oneRank result)
    (hbase : AtLeast rank base) (hrank : oneRank ≤ rank) (exponent : Nat) :
    AtLeast oneRank (powAux result base exponent) ∧
      (exponent ≠ 0 → AtLeast rank (powAux result base exponent)) := by
  have hpos : 0 < rank := Nat.lt_of_lt_of_le (by decide) hrank
  -- the base is squared from digit to digit, and does not get smaller by that
  induction exponent using Nat.strong_induction_on generalizing result base with
  | h exponent ih =>
    have hproduct : AtLeast rank (result.mul base) := hresult.mul hbase hpos
    have hnext : AtLeast oneRank (if exponent % 2 = 1 then result.mul base else result) := by
      split
      · exact hproduct.mono hrank
      · exact hresult
    rw [Binary64.powAux]
    split
    next hlast =>
      refine ⟨hnext, fun hne => ?_⟩
      rw [if_pos (by omega)]
      exact hproduct
    next hmore =>
      have hsquare := (hbase.mono hrank).mul hbase hpos
      obtain ⟨hone, hbase'⟩ := ih (exponent / 2) (by omega) hnext hsquare
      exact ⟨hone, fun _ => hbase' hmore⟩

/-- A power of a number from two on is no less than one, and no less than the number if it is not the
zeroth. -/
lemma AtLeast.power (hbase : AtLeast twoRank base) (exponent : Nat) :
    AtLeast oneRank (Binary64.powAux one base exponent) ∧
      (exponent ≠ 0 → AtLeast twoRank (Binary64.powAux one base exponent)) :=
  AtLeast.powAux (.finite (by decide)) hbase (by decide) exponent

/-- A number is at most another if both have units, and the first no more of them. -/
lemma le_iff : x.le y = true ↔ ∃ a b, x.units? = some a ∧ y.units? = some b ∧ a ≤ b := by
  unfold le
  cases x.units? with
  | none => simp
  | some a => cases y.units? <;> simp

/-- The order of numbers is transitive. -/
lemma le_trans {z : Binary64} (hxy : x.le y = true) (hyz : y.le z = true) : x.le z = true := by
  obtain ⟨a, b, ha, hb, hab⟩ := le_iff.1 hxy
  obtain ⟨b', c, hb', hc, hbc⟩ := le_iff.1 hyz
  obtain rfl := Option.some_inj.1 (hb.symm.trans hb')
  exact le_iff.2 ⟨a, c, ha, hc, Int.le_trans hab hbc⟩

/-- A negated number has the negated units. -/
lemma units?_neg (x : Binary64) : x.neg.units? = x.units?.map fun units => -units := by
  cases x with
  | nan => rfl
  | infinite negative => cases negative <;> simp [neg, units?, signed]
  | finite negative n => cases negative <;> simp [neg, units?, signed]

/-- Zero is zero units. -/
lemma units?_zero : zero.units? = some 0 := by decide +kernel

/-- A number that is at least the one of a rank has units, and no fewer than the magnitude of the rank.
-/
lemma AtLeast.exists_units? (h : AtLeast rank x) (hrank : rank ≤ rankCount) :
    ∃ units : Nat, x.units? = some (units : Int) ∧ magnitude rank ≤ units := by
  cases h with
  | @finite n hn => exact ⟨magnitude n, by simp [units?, signed], magnitude_le_magnitude hn⟩
  | infinite => exact ⟨magnitude rankCount, by simp [units?, signed], magnitude_le_magnitude hrank⟩

/-- A number that is not negative has zero before it, and its opposite before zero. -/
lemma AtLeast.zero_le (h : AtLeast 0 x) : zero.le x = true ∧ x.neg.le zero = true := by
  obtain ⟨units, hunits, -⟩ := h.exists_units? (Nat.zero_le _)
  have hneg : x.neg.units? = some (-(units : Int)) := by rw [units?_neg, hunits, Option.map_some]
  exact ⟨le_iff.2 ⟨_, _, units?_zero, hunits, by omega⟩, le_iff.2 ⟨_, _, hneg, units?_zero, by omega⟩⟩

/-- A number whose opposite is positive comes before zero, and before its opposite. -/
lemma not_le_of_atLeast_neg (h : AtLeast halfRank x.neg) :
    zero.le x = false ∧ x.neg.le x = false := by
  obtain ⟨size, hneg, hsize⟩ := h.exists_units? (by decide)
  have hpos : 0 < magnitude halfRank := by decide +kernel
  have hunits : x.units? = some (-(size : Int)) := by
    rw [units?_neg] at hneg
    obtain ⟨units, hx, hunits⟩ := Option.map_eq_some_iff.1 hneg
    rw [hx, ← hunits, Int.neg_neg]
  constructor
  · simp only [le, units?_zero, hunits, decide_eq_false_iff_not]
    omega
  · simp only [le, hneg, hunits, decide_eq_false_iff_not]
    omega

/-- The number one is the one of its rank. -/
lemma one_eq : one = finite false ⟨oneRank, by decide⟩ := rfl

/-- The negation of a negative ratio is the ratio. -/
lemma neg_ofRatio (num den : Nat) : (ofRatio true num den).neg = ofRatio false num den := by
  simp only [ofRatio]
  split <;> rfl

/-- Units are rounded to a number of a rank whose magnitude they reach. -/
lemma atLeast_ofUnits {units : Nat} (h : magnitude rank ≤ units) :
    AtLeast rank (ofUnits units) := by
  have hsign : decide ((units : Int) < 0) = false := by simp
  rw [ofUnits, hsign, Int.natAbs_natCast]
  exact atLeast_ofRatio (le_nearestRank Nat.one_pos (by rwa [Nat.mul_one]))

/-- Negative units are rounded to the negation of such a number. -/
lemma atLeast_neg_ofUnits {units : Nat} (hpos : 0 < units) (h : magnitude rank ≤ units) :
    AtLeast rank (ofUnits (-units)).neg := by
  have hsign : decide (-(units : Int) < 0) = true := by simpa using hpos
  rw [ofUnits, hsign, Int.natAbs_neg, Int.natAbs_natCast, neg_ofRatio]
  exact atLeast_ofRatio (le_nearestRank Nat.one_pos (by rwa [Nat.mul_one]))

/-- The difference of a finite number and one, rounded. -/
lemma finite_sub_one (n : Fin 0x7FF0000000000000) :
    (finite false n).sub one =
      if (magnitude n : Int) - unitsPerOne = 0 then zero
      else ofUnits ((magnitude n : Int) - unitsPerOne) := by
  have hsum : signed false (magnitude n) + signed true (magnitude oneRank) =
      (magnitude n : Int) - unitsPerOne := by
    rw [magnitude_oneRank, signed, signed, if_neg Bool.false_ne_true, if_pos rfl,
      ← Int.sub_eq_add_neg]
  simp only [sub, one_eq, neg, add, Bool.not_false, hsum, Bool.false_and]
  rfl

/-- What is left of a number from one on is not negative. -/
lemma AtLeast.sub_one (h : AtLeast oneRank x) : AtLeast 0 (x.sub one) := by
  cases h with
  | @finite n hn =>
    have hle : unitsPerOne ≤ magnitude n := magnitude_oneRank ▸ magnitude_le_magnitude hn
    rw [finite_sub_one, ← Int.ofNat_sub hle]
    split
    · exact .finite (Nat.zero_le _)
    · exact atLeast_ofUnits (Nat.zero_le _)
  | infinite => exact .infinite

/-- One less than a number up to one half is at most minus one half. -/
lemma atLeast_neg_sub_one {n : Fin 0x7FF0000000000000} (h : n.val ≤ halfRank) :
    AtLeast halfRank ((finite false n).sub one).neg := by
  have hle := magnitude_le_magnitude h
  have hhalf := magnitude_halfRank
  have hpos := unitsPerOne_pos
  have hunits : (magnitude n : Int) - unitsPerOne = -((unitsPerOne - magnitude n : Nat) : Int) := by
    omega
  rw [finite_sub_one, if_neg (by omega), hunits]
  exact atLeast_neg_ofUnits (by omega) (by omega)

/-- The reciprocal of a number from two on is at most one half. -/
lemma AtLeast.exists_reciprocal (h : AtLeast twoRank x) :
    ∃ n : Fin 0x7FF0000000000000, one.div x = Binary64.finite false n ∧ n.val ≤ halfRank := by
  cases h with
  | @finite n hn =>
    have hle := magnitude_le_magnitude hn
    rw [magnitude_twoRank] at hle
    have hpos := unitsPerOne_pos
    have hrank : nearestRank (magnitude oneRank * unitsPerOne) (magnitude n) ≤ halfRank := by
      refine nearestRank_le_of_le (by omega) ?_
      calc magnitude oneRank * unitsPerOne
          = magnitude halfRank * (2 * unitsPerOne) := by
            rw [magnitude_oneRank, ← magnitude_halfRank]
            ring
        _ ≤ magnitude halfRank * magnitude n := Nat.mul_le_mul_left _ hle
    have hfinite : nearestRank (magnitude oneRank * unitsPerOne) (magnitude n) <
        0x7FF0000000000000 := Nat.lt_of_le_of_lt hrank (by decide)
    have hne : n.val ≠ 0 := (Nat.lt_of_lt_of_le (by decide) hn).ne'
    refine ⟨⟨_, hfinite⟩, ?_, hrank⟩
    simp only [one_eq, div, if_neg hne, ofRatio, bne_self_eq_false, dif_pos hfinite]
  | infinite => exact ⟨⟨0, by decide⟩, rfl, Nat.zero_le _⟩

/-- A power of a number from two on is no less than one if the exponent is not negative. -/
lemma AtLeast.pow (hbase : AtLeast twoRank base) {exponent : Int} (h : 0 ≤ exponent) :
    AtLeast oneRank (base.pow exponent) := by
  rw [Binary64.pow, if_neg (Int.not_lt.2 h)]
  exact (hbase.power _).1

/-- A power of a number from two on, less one, is at most minus one half if the exponent is negative. -/
lemma AtLeast.neg_pow_sub_one (hbase : AtLeast twoRank base) {exponent : Int} (h : exponent < 0) :
    AtLeast halfRank ((base.pow exponent).sub one).neg := by
  rw [Binary64.pow, if_pos h]
  obtain ⟨n, hreciprocal, hn⟩ := ((hbase.power _).2 (Int.natAbs_ne_zero.2 h.ne)).exists_reciprocal
  rw [hreciprocal]
  exact atLeast_neg_sub_one hn

end RecordAccess.Binary64
