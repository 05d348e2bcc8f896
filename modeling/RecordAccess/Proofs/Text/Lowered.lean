import Mathlib.Data.Nat.Bitwise
import RecordAccess.Proofs.Text.LetterCase

/-!
# Lowered texts

A text in lowercase is its own lowercase form (`lowercase_lowercase`), and has the marks that the text had
before: the characters in front of the capitals are neither changed nor made of others
(`mem_lowercase_iff`, `head?_lowercase_iff`). Nor are the letters of ASCII made of others, apart from the
letter k of the kelvin sign (`map_toLower_eq_lowerAfter`).

Both come down to the letters that the capitals of the tables are lowered to, which are no capitals
themselves. There are too many of them to be compared one by one; as bits of two numbers they are compared
at once (`bits_disjoint`).
-/

namespace RecordAccess

namespace LetterCase

/-- The capitals of a run. -/
def capitalCodes : Nat × Nat × Nat × Int → List Nat
  | (first, last, step, _) => (List.range ((last - first) / step + 1)).map fun k => first + k * step

/-- The letters that the capitals of a run are lowered to. -/
def loweredCodes (run : Nat × Nat × Nat × Int) : List Nat :=
  (capitalCodes run).map fun (n : Nat) => ((n : Int) + run.2.2.2).toNat

/-- The number that has a bit for each code point of a list. -/
def bits (codes : List Nat) : Nat := codes.foldr (fun n bits => bits ||| 1 <<< n) 0

/-- The bits of some code points are set for these and no others. -/
lemma testBit_bits {n : Nat} {codes : List Nat} : (bits codes).testBit n = true ↔ n ∈ codes := by
  induction codes with
  | nil => simp [bits]
  | cons m codes ih =>
    have hcons : bits (m :: codes) = bits codes ||| 1 <<< m := rfl
    rw [hcons, Nat.testBit_or, Bool.or_eq_true, ih, Nat.one_shiftLeft, Nat.testBit_two_pow,
      decide_eq_true_iff, List.mem_cons, or_comm, eq_comm]

/-- No capital is lowered to a capital, and none to the one that is lowered to two characters. -/
lemma bits_disjoint :
    bits (0x130 :: capitals.flatMap capitalCodes) &&& bits (capitals.flatMap loweredCodes) = 0 := by
  decide +kernel

/-- The letters that capitals are lowered to are characters behind the ASCII capitals. -/
lemma lowered_within : ∀ run ∈ capitals, 97 ≤ run.1 + run.2.2.2 ∧
    (run.2.1 + run.2.2.2 < 0xD800 ∨ 0xE000 ≤ run.1 + run.2.2.2 ∧ run.2.1 + run.2.2.2 < 0x110000) := by
  decide +kernel

/-- Of the capitals of the tables only the kelvin sign is lowered into ASCII. -/
lemma lowered_beyond : ∀ run ∈ capitals,
    128 ≤ run.1 + run.2.2.2 ∨ run = (0x212A, 0x212A, 1, -8383) := by
  decide +kernel

/-- No capital is lowered to one of the capitals. -/
lemma not_mem_of_lowered {run : Nat × Nat × Nat × Int} (hrun : run ∈ capitals) {n : Nat}
    (hn : n ∈ loweredCodes run) : n ∉ 0x130 :: capitals.flatMap capitalCodes := by
  intro hcapital
  have hboth := congrArg (Nat.testBit · n) bits_disjoint
  have hlowered : n ∈ capitals.flatMap loweredCodes := List.mem_flatMap.2 ⟨run, hrun, hn⟩
  simp [Nat.testBit_and, testBit_bits.2 hcapital, testBit_bits.2 hlowered] at hboth

/-- Code points of a run, at the distance of its steps from the first, are capitals of it. -/
lemma mem_capitalCodes {n first last step : Nat} {offset : Int} (hfirst : first ≤ n) (hlast : n ≤ last)
    (hstep : (n - first) % step = 0) : n ∈ capitalCodes (first, last, step, offset) := by
  refine List.mem_map.2 ⟨(n - first) / step, List.mem_range.2 ?_, ?_⟩
  · exact Nat.lt_succ_of_le (Nat.div_le_div_right (by omega))
  · have hdiv := Nat.div_add_mod' (n - first) step
    omega

end LetterCase

open LetterCase

/-- A character that is its own lowercase form, wherever it stands. -/
def IsSmall (c : Char) : Prop := lowerChar c = [c] ∧ c.toNat ≠ 0x3A3

instance (c : Char) : Decidable (IsSmall c) := inferInstanceAs (Decidable (_ ∧ _))

/-- The lowercase form of a character: small letters, and none of the marks in front of the capitals,
unless the character is one. -/
structure Lowers (c : Char) (ds : List Char) : Prop where
  small : ∀ d ∈ ds, IsSmall d
  mark : c.toNat < 65 → ds = [c]
  beyond : 65 ≤ c.toNat → ds ≠ [] ∧ ∀ d ∈ ds, 65 ≤ d.toNat

/-- Small letters from the letters on are a lowercase form of a character from there on. -/
lemma lowers_of_beyond {c : Char} {ds : List Char} (hc : 65 ≤ c.toNat) (hds : ds ≠ [])
    (hall : ∀ d ∈ ds, IsSmall d ∧ 65 ≤ d.toNat) : Lowers c ds where
  small d hd := (hall d hd).1
  mark hmark := absurd hc (Nat.not_le.2 hmark)
  beyond _ := ⟨hds, fun d hd => (hall d hd).2⟩

/-- In ASCII the lowercase form is the small letter. -/
lemma lowers_ascii {c : Char} (hc : c.toNat < 128) : Lowers c [c.toLower] := by
  have hfixed : lowerChar c.toLower = [c.toLower] := by
    rw [lowerChar_toLower, lowerChar, if_pos hc]
  have hsigma : c.toLower.toNat ≠ 0x3A3 := by
    rw [Ne, sigma_toLower]
    omega
  refine ⟨List.forall_mem_singleton.2 ⟨hfixed, hsigma⟩, ?_, fun hbeyond => ⟨nofun, ?_⟩⟩
  · intro hmark
    obtain hself | ⟨i, rfl⟩ := toLower_eq_self_or_capital c
    · rw [hself]
    · exact absurd hmark (by revert i; decide)
  · rw [List.forall_mem_singleton]
    obtain hself | ⟨i, rfl⟩ := toLower_eq_self_or_capital c
    · rwa [hself]
    · revert i
      decide

/-- The run that a capital is found in. -/
def runOf? (c : Char) : Option (Nat × Nat × Nat × Int) :=
  capitals.find? fun (first, last, step, _) =>
    decide (first ≤ c.toNat) && decide (c.toNat ≤ last) && (c.toNat - first) % step == 0

/-- The run of a capital is in the table, and the capital is one of the run. -/
lemma capital_of_runOf? {c : Char} {run : Nat × Nat × Nat × Int} (h : runOf? c = some run) :
    run ∈ capitals ∧ run.1 ≤ c.toNat ∧ c.toNat ≤ run.2.1 ∧ c.toNat ∈ capitalCodes run := by
  obtain ⟨first, last, step, offset⟩ := run
  have hcovers := List.find?_some h
  simp only [Bool.and_eq_true, decide_eq_true_iff, beq_iff_eq] at hcovers
  obtain ⟨⟨hfirst, hlast⟩, hstep⟩ := hcovers
  exact ⟨List.mem_of_find?_eq_some h, hfirst, hlast, mem_capitalCodes hfirst hlast hstep⟩

/-- Beyond ASCII the tables say what a character is lowered to. -/
lemma lowerChar_eq {c : Char} (hbeyond : 128 ≤ c.toNat) (hdotted : c.toNat ≠ 0x130) :
    lowerChar c = (runOf? c).elim [c] fun run => [Char.ofNat (c.toNat + run.2.2.2).toNat] := by
  rw [lowerChar, if_neg (Nat.not_lt.2 hbeyond), if_neg hdotted]
  show _ = Option.elim (capitals.find? _) _ _
  split
  next hfind => rw [hfind]; rfl
  next hfind => rw [hfind]; rfl

/-- Behind the ASCII capitals a character that is no capital of the tables is small. -/
lemma isSmall_of_not_mem {c : Char} (hc : 97 ≤ c.toNat)
    (h : c.toNat ∉ 0x130 :: capitals.flatMap capitalCodes) : IsSmall c := by
  obtain ⟨hdotted, htable⟩ := List.ne_and_not_mem_of_not_mem_cons h
  refine ⟨?_, fun hsigma => htable (hsigma ▸ testBit_bits.1 (by decide +kernel))⟩
  by_cases hascii : c.toNat < 128
  · rw [lowerChar, if_pos hascii]
    obtain hself | ⟨i, rfl⟩ := toLower_eq_self_or_capital c
    · rw [hself]
    · exact absurd hc (by revert i; decide)
  · rw [lowerChar_eq (Nat.le_of_not_lt hascii) hdotted]
    cases hrun : runOf? c with
    | none => rfl
    | some run =>
      obtain ⟨hmem, -, -, hcode⟩ := capital_of_runOf? hrun
      exact absurd (List.mem_flatMap.2 ⟨run, hmem, hcode⟩) htable

/-- The letter that a capital is lowered to has the code point that the table gives. -/
lemma toNat_lowered {c : Char} {run : Nat × Nat × Nat × Int} (h : runOf? c = some run) :
    (Char.ofNat (c.toNat + run.2.2.2).toNat).toNat = (c.toNat + run.2.2.2).toNat := by
  obtain ⟨hrun, hfirst, hlast, -⟩ := capital_of_runOf? h
  obtain ⟨hstart, hwithin⟩ := lowered_within run hrun
  have hvalid : (c.toNat + run.2.2.2).toNat.isValidChar := by
    unfold Nat.isValidChar
    omega
  rw [Char.ofNat, dif_pos hvalid]
  rfl

/-- The letter that a capital is lowered to is small. -/
lemma lowers_capital {c : Char} {run : Nat × Nat × Nat × Int} (h : runOf? c = some run)
    (hbeyond : 128 ≤ c.toNat) : Lowers c [Char.ofNat (c.toNat + run.2.2.2).toNat] := by
  obtain ⟨hrun, hfirst, -, hcode⟩ := capital_of_runOf? h
  have hcapital := not_mem_of_lowered hrun (List.mem_map.2 ⟨_, hcode, rfl⟩)
  obtain ⟨hstart, -⟩ := lowered_within run hrun
  have hchar := toNat_lowered h
  generalize hn : (c.toNat + run.2.2.2).toNat = n at hcapital hchar
  have hsmall : IsSmall (Char.ofNat n) := isSmall_of_not_mem (by omega) (by rwa [hchar])
  refine lowers_of_beyond (by omega) (List.cons_ne_nil _ _) (List.forall_mem_singleton.2 ⟨hsmall, ?_⟩)
  rw [hchar]
  omega

/-- The lowercase form of every character but the sigma is one of small letters. -/
lemma lowers_lowerChar {c : Char} (hsigma : c.toNat ≠ 0x3A3) : Lowers c (lowerChar c) := by
  by_cases hascii : c.toNat < 128
  · rw [lowerChar, if_pos hascii]
    exact lowers_ascii hascii
  have hbeyond : 128 ≤ c.toNat := Nat.le_of_not_lt hascii
  by_cases hdotted : c.toNat = 0x130
  · rw [lowerChar, if_neg hascii, if_pos hdotted]
    refine lowers_of_beyond (by omega) (List.cons_ne_nil _ _) (List.forall_mem_cons.2 ⟨?_, ?_⟩)
    · decide +kernel
    · exact List.forall_mem_singleton.2 (by decide +kernel)
  have heq := lowerChar_eq hbeyond hdotted
  cases hrun : runOf? c with
  | some run =>
    rw [heq, hrun]
    exact lowers_capital hrun hbeyond
  | none =>
    rw [hrun, Option.elim_none] at heq
    rw [heq]
    refine ⟨List.forall_mem_singleton.2 ⟨heq, hsigma⟩, fun _ => rfl, fun h => ⟨nofun, ?_⟩⟩
    exact List.forall_mem_singleton.2 h

/-- A text is lowered character by character. -/
lemma exists_lowers (before : List Char) (c : Char) (cs : List Char) :
    ∃ ds, Lowers c ds ∧ lowerAfter before (c :: cs) = ds ++ lowerAfter (c :: before) cs := by
  rw [lowerAfter]
  by_cases hsigma : c.toNat = 0x3A3
  · refine ⟨_, ?_, by rw [if_pos hsigma]⟩
    refine lowers_of_beyond (by omega) (List.cons_ne_nil _ _) (List.forall_mem_singleton.2 ?_)
    split
    · decide +kernel
    · decide +kernel
  · exact ⟨lowerChar c, lowers_lowerChar hsigma, by rw [if_neg hsigma]⟩

/-- A lowered text consists of small letters. -/
lemma isSmall_of_mem_lowerAfter {before cs : List Char} {d : Char} (h : d ∈ lowerAfter before cs) :
    IsSmall d := by
  induction cs generalizing before with
  | nil => cases h
  | cons c cs ih =>
    obtain ⟨ds, hlowers, heq⟩ := exists_lowers before c cs
    rw [heq, List.mem_append] at h
    exact h.elim (hlowers.small d) ih

/-- A text of small letters is lowered to itself. -/
lemma lowerAfter_of_small {before cs : List Char} (h : ∀ c ∈ cs, IsSmall c) :
    lowerAfter before cs = cs := by
  induction cs generalizing before with
  | nil => rfl
  | cons c cs ih =>
    obtain ⟨⟨hself, hsigma⟩, hrest⟩ := List.forall_mem_cons.1 h
    simp [lowerAfter, hsigma, hself, ih hrest]

/-- The lowercase form of a text is in lowercase. -/
lemma lowercase_lowercase (text : String) : lowercase (lowercase text) = lowercase text := by
  simp only [lowercase, String.toList_ofList]
  rw [lowerAfter_of_small fun c => isSmall_of_mem_lowerAfter]

/-- A mark in front of the letters is in a lowered text if it was in the text. -/
lemma mem_lowerAfter_iff {mark : Char} (hmark : mark.toNat < 65) {before cs : List Char} :
    mark ∈ lowerAfter before cs ↔ mark ∈ cs := by
  induction cs generalizing before with
  | nil => rfl
  | cons c cs ih =>
    obtain ⟨ds, hlowers, heq⟩ := exists_lowers before c cs
    have hds : mark ∈ ds ↔ mark = c := by
      by_cases hc : c.toNat < 65
      · rw [hlowers.mark hc, List.mem_singleton]
      · obtain ⟨-, hall⟩ := hlowers.beyond (Nat.le_of_not_lt hc)
        refine iff_of_false (fun hmem => ?_) (fun heq => hc (heq ▸ hmark))
        have := hall mark hmem
        omega
    rw [heq, List.mem_append, List.mem_cons, hds, ih]

/-- A mark in front of the capitals is in the lowercase form of a text if it is in the text. -/
lemma mem_lowercase_iff {mark : Char} (hmark : mark.toNat < 65) (text : String) :
    mark ∈ (lowercase text).toList ↔ mark ∈ text.toList := by
  rw [lowercase, String.toList_ofList]
  exact mem_lowerAfter_iff hmark

/-- The lowercase form of a character beyond ASCII is not in ASCII, but for the letter k of the kelvin
sign. -/
lemma exists_beyond_mem_lowerChar {c : Char} (hbeyond : 128 ≤ c.toNat) :
    ∃ d ∈ lowerChar c, 128 ≤ d.toNat ∨ d = 'k' := by
  by_cases hdotted : c.toNat = 0x130
  · rw [lowerChar, if_neg (Nat.not_lt.2 hbeyond), if_pos hdotted]
    exact ⟨Char.ofNat 0x307, by simp, .inl (by decide)⟩
  rw [lowerChar_eq hbeyond hdotted]
  cases hrun : runOf? c with
  | none => exact ⟨c, List.mem_singleton_self c, .inl hbeyond⟩
  | some run =>
    refine ⟨_, List.mem_singleton_self _, ?_⟩
    obtain ⟨hmem, hfirst, hlast, -⟩ := capital_of_runOf? hrun
    obtain hrange | rfl := lowered_beyond run hmem
    · rw [toNat_lowered hrun]
      omega
    · have hkelvin : c.toNat = 0x212A := Nat.le_antisymm hlast hfirst
      rw [hkelvin]
      exact .inr rfl

/-- A text whose lowercase form is in ASCII, without a k, has ASCII letters in place of those of this
form. -/
lemma map_toLower_eq_lowerAfter {before cs : List Char}
    (h : ∀ d ∈ lowerAfter before cs, d.toNat < 128 ∧ d ≠ 'k') :
    cs.map Char.toLower = lowerAfter before cs := by
  induction cs generalizing before with
  | nil => rfl
  | cons c cs ih =>
    rw [lowerAfter] at h ⊢
    obtain ⟨hc, hcs⟩ := List.forall_mem_append.1 h
    rw [List.map_cons, ih hcs]
    have hsigma : c.toNat ≠ 0x3A3 := by
      intro hsigma
      rw [if_pos hsigma, List.forall_mem_singleton] at hc
      revert hc
      split
      · decide
      · decide
    rw [if_neg hsigma] at hc ⊢
    have hascii : c.toNat < 128 := by
      by_contra hbeyond
      obtain ⟨d, hd, hd'⟩ := exists_beyond_mem_lowerChar (Nat.le_of_not_lt hbeyond)
      obtain ⟨hlt, hne⟩ := hc d hd
      exact hd'.elim (Nat.not_le.2 hlt) hne
    rw [lowerChar, if_pos hascii, List.singleton_append]

/-- A lowercase form begins with a mark in front of the capitals if the text does. -/
lemma head?_lowercase_iff {mark : Char} (hmark : mark.toNat < 65) (text : String) :
    (lowercase text).toList.head? = some mark ↔ text.toList.head? = some mark := by
  rw [lowercase, String.toList_ofList]
  cases text.toList with
  | nil => rfl
  | cons c cs =>
    obtain ⟨ds, hlowers, heq⟩ := exists_lowers [] c cs
    rw [heq]
    by_cases hc : c.toNat < 65
    · rw [hlowers.mark hc]
      rfl
    · obtain ⟨hne, hall⟩ := hlowers.beyond (Nat.le_of_not_lt hc)
      obtain ⟨d, more, rfl⟩ := List.exists_cons_of_ne_nil hne
      have hd := hall d List.mem_cons_self
      refine iff_of_false ?_ ?_
      · rintro ⟨⟩
        omega
      · rintro ⟨⟩
        omega

end RecordAccess
