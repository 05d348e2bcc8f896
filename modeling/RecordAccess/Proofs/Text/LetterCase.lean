import Mathlib.Tactic.Common
import RecordAccess.Text.Blank
import RecordAccess.Text.Lowercase

/-!
# Letter case

An ASCII capital differs from its small letter in nothing that the lowercase form of a text looks at, also
where it stands next to a sigma: `lowercase_map_toLower`. What is no such capital is its own small letter,
so that a property of characters is one of small letters if it is for the twenty-six capitals
(`toLower_induction`).
-/

namespace RecordAccess

open LetterCase

/-- The ASCII capitals. -/
def capital (i : Fin 26) : Char := Char.ofNat (65 + i)

/-- An ASCII lowercase form is the character itself, or the character is a capital. -/
lemma toLower_eq_self_or_capital (c : Char) : c.toLower = c ∨ ∃ i, c = capital i := by
  by_cases hc : 65 ≤ c.toNat ∧ c.toNat ≤ 90
  · refine .inr ⟨⟨c.toNat - 65, by omega⟩, ?_⟩
    have hnat : 65 + (c.toNat - 65) = c.toNat := by omega
    rw [capital, hnat, Char.ofNat_toNat]
  · refine .inl (dif_neg ?_)
    simpa [UInt32.le_iff_toNat_le] using hc

/-- What small letters share with their capitals, each character shares with its small letter. -/
lemma toLower_induction {α : Sort*} {f : Char → α} (h : ∀ i, f (capital i).toLower = f (capital i))
    (c : Char) : f c.toLower = f c := by
  obtain hself | ⟨i, rfl⟩ := toLower_eq_self_or_capital c
  · rw [hself]
  · exact h i

/-- A character becomes a mark that is no letter only if it is that mark. -/
lemma toLower_eq_iff {mark : Char} (h : ∀ i, capital i ≠ mark ∧ (capital i).toLower ≠ mark)
    (c : Char) : c.toLower = mark ↔ c = mark := by
  obtain hself | ⟨i, rfl⟩ := toLower_eq_self_or_capital c
  · rw [hself]
  · exact iff_of_false (h i).2 (h i).1

/-- The ASCII lowercase form of a character is blank if the character is. -/
lemma isBlank_toLower (c : Char) : isBlank c.toLower = isBlank c :=
  toLower_induction (by decide) c

/-- The lowercase form of a character is that of its ASCII lowercase form. -/
lemma lowerChar_toLower (c : Char) : lowerChar c.toLower = lowerChar c :=
  toLower_induction (by decide) c

/-- A character becomes the capital sigma only if it is that. -/
lemma sigma_toLower (c : Char) : c.toLower.toNat = 0x3A3 ↔ c.toNat = 0x3A3 :=
  decide_eq_decide.1 (toLower_induction (f := fun c => decide (c.toNat = 0x3A3)) (by decide) c)

/-- The ASCII lowercase form of a character is ignorable if the character is. -/
lemma ignorable_toLower (c : Char) :
    within ignorableRanges c.toLower = within ignorableRanges c :=
  toLower_induction (by decide +kernel) c

/-- The ASCII lowercase form of a character is cased if the character is. -/
lemma cased_toLower (c : Char) : within casedRanges c.toLower = within casedRanges c :=
  toLower_induction (by decide +kernel) c

/-- A text in ASCII small letters starts with a cased letter if the text does. -/
lemma startsCased_map_toLower (cs : List Char) :
    startsCased (cs.map Char.toLower) = startsCased cs := by
  have hignorable : within ignorableRanges ∘ Char.toLower = within ignorableRanges :=
    funext ignorable_toLower
  rw [startsCased, startsCased, List.dropWhile_map, hignorable]
  cases cs.dropWhile (within ignorableRanges) with
  | nil => rfl
  | cons c cs => exact cased_toLower c

/-- A capital is lowered as its small letter is, and so is a sigma next to it. -/
lemma lowerAfter_map_toLower (before cs : List Char) :
    lowerAfter (before.map Char.toLower) (cs.map Char.toLower) = lowerAfter before cs := by
  induction cs generalizing before with
  | nil => rfl
  | cons c cs ih =>
    have hrest := ih (c :: before)
    rw [List.map_cons] at hrest
    simp only [List.map_cons, lowerAfter, hrest, sigma_toLower, startsCased_map_toLower,
      lowerChar_toLower]

/-- The lowercase form of a text does not depend on the case of its ASCII letters. -/
lemma lowercase_map_toLower (cs : List Char) :
    lowercase (String.ofList (cs.map Char.toLower)) = lowercase (String.ofList cs) := by
  simp only [lowercase, String.toList_ofList]
  exact congrArg String.ofList (lowerAfter_map_toLower [] cs)

end RecordAccess
