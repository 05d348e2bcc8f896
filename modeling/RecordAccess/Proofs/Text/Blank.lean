import Mathlib.Data.List.DropRight
import Mathlib.Tactic.Common
import RecordAccess.Proofs.Text.Parts
import RecordAccess.Text.Blank

/-!
# Texts between blanks

Trimming leaves out blanks around a text (`trimChars_append`) and nothing else
(`exists_eq_append_trimChars`). The words of a text are the non-empty parts between its blanks
(`words_eq`), however many blanks there are (`words_append_blank`).
-/

namespace RecordAccess

variable {cs l r : List Char} {c : Char}

/-- A text of nothing but white space. -/
def Blank (cs : List Char) : Prop := ∀ c ∈ cs, isBlank c = true

instance (cs : List Char) : Decidable (Blank cs) :=
  List.decidableBAll (fun c => isBlank c = true) cs

/-- A text that neither begins nor ends with white space. -/
structure Bare (cs : List Char) : Prop where
  head : ∀ c ∈ cs.head?, isBlank c = false
  last : ∀ c ∈ cs.getLast?, isBlank c = false

/-- The empty text is blank. -/
lemma blank_nil : Blank [] := nofun

/-- A blank text is blank backwards. -/
lemma Blank.reverse (h : Blank cs) : Blank cs.reverse := fun c hc => h c (List.mem_reverse.1 hc)

/-- Two blank texts are blank together. -/
lemma Blank.append (hl : Blank l) (hr : Blank r) : Blank (l ++ r) := by
  intro c hc
  obtain hc | hc := List.mem_append.1 hc
  · exact hl c hc
  · exact hr c hc

/-- White space before a text is dropped with that at its start. -/
lemma Blank.dropWhile_append (h : Blank l) (cs : List Char) :
    (l ++ cs).dropWhile isBlank = cs.dropWhile isBlank :=
  List.dropWhile_append_of_pos h

/-- Of a blank text nothing is left. -/
lemma Blank.dropWhile_eq_nil (h : Blank cs) : cs.dropWhile isBlank = [] :=
  List.dropWhile_eq_nil_iff.2 h

/-- Blanks around a text are left out. -/
lemma trimChars_append (hl : Blank l) (hr : Blank r) : trimChars (l ++ cs ++ r) = trimChars cs := by
  rw [trimChars, trimChars, List.append_assoc, hl.dropWhile_append]
  by_cases hblank : cs.dropWhile isBlank = []
  · have hcs : Blank cs := List.dropWhile_eq_nil_iff.1 hblank
    rw [hblank, (hcs.append hr).dropWhile_eq_nil]
  · rw [List.dropWhile_append, if_neg (by simpa using hblank), List.reverse_append,
      hr.reverse.dropWhile_append]

/-- Trimming leaves out nothing but blanks. -/
lemma exists_eq_append_trimChars (cs : List Char) :
    ∃ l r, Blank l ∧ Blank r ∧ cs = l ++ trimChars cs ++ r := by
  refine ⟨cs.takeWhile isBlank, (cs.dropWhile isBlank).rtakeWhile isBlank, ?_, ?_, ?_⟩
  · exact fun c hc => List.mem_takeWhile_imp hc
  · exact fun c hc => List.mem_rtakeWhile_imp hc
  · have htrim : trimChars cs = (cs.dropWhile isBlank).rdropWhile isBlank := rfl
    rw [htrim, List.append_assoc, List.rdropWhile_append_rtakeWhile, List.takeWhile_append_dropWhile]

/-- A text without blanks around it is left as it is. -/
lemma Bare.trimChars_eq (h : Bare cs) : trimChars cs = cs := by
  have hdrop {cs : List Char} (h : ∀ c ∈ cs.head?, isBlank c = false) :
      cs.dropWhile isBlank = cs := by
    cases cs with
    | nil => rfl
    | cons c cs => exact List.dropWhile_cons_of_neg (by simp [h c rfl])
  have hlast : ∀ c ∈ cs.reverse.head?, isBlank c = false := by
    rw [List.head?_reverse]
    exact h.last
  rw [trimChars, hdrop h.head, hdrop hlast, List.reverse_reverse]

/-- A trimmed text is empty if it was blank. -/
lemma trimChars_eq_nil_iff : trimChars cs = [] ↔ Blank cs := by
  refine ⟨fun h => ?_, fun h => by simp [trimChars, h.dropWhile_eq_nil]⟩
  obtain ⟨l, r, hl, hr, hcs⟩ := exists_eq_append_trimChars cs
  rw [h, List.append_nil] at hcs
  exact hcs ▸ hl.append hr

/-- A text without white space does not begin or end with any. -/
lemma bare_of_forall (h : ∀ c ∈ cs, isBlank c = false) : Bare cs where
  head := fun c hc => h c (List.mem_of_mem_head? hc)
  last := fun c hc => h c (List.mem_of_getLast? hc)

/-- Digits are no white space. -/
lemma isBlank_of_isDigit (h : c.isDigit = true) : isBlank c = false := by
  have hrange : 48 ≤ c.toNat ∧ c.toNat ≤ 57 := by
    simpa [Char.isDigit, UInt32.le_iff_toNat_le] using h
  simp [isBlank]
  omega

/-- A text between two characters that are no white space neither begins nor ends with any. -/
lemma bare_between {first last : Char} (hfirst : isBlank first = false)
    (hlast : isBlank last = false) (cs : List Char) : Bare (first :: (cs ++ [last])) := by
  refine ⟨?_, ?_⟩
  · rintro c ⟨⟩
    exact hfirst
  · rw [← List.cons_append, List.getLast?_concat]
    rintro c ⟨⟩
    exact hlast

/-- The words from a word on are the parts between white space that are not empty. -/
lemma wordsAfter_eq (word cs : List Char) :
    wordsAfter word cs = (cs.splitOnPPrepend isBlank word).filter fun w => !w.isEmpty := by
  induction cs generalizing word with
  | nil => cases word <;> simp [wordsAfter]
  | cons c cs ih =>
    rw [wordsAfter, List.splitOnPPrepend_cons_eq_if]
    split
    · rw [ih, List.splitOnPPrepend_nil_right]
      cases word <;> simp
    · exact ih _

/-- The words are the non-empty parts between blanks. -/
lemma words_eq (cs : List Char) : words cs = (cs.splitOnP isBlank).filter fun w => !w.isEmpty :=
  wordsAfter_eq [] cs

/-- A blank parts words. -/
lemma words_append_cons (l r : List Char) (hc : isBlank c = true) :
    words (l ++ c :: r) = words l ++ words r := by
  simp only [words_eq, List.splitOnP_append_cons l r hc, List.filter_append]

/-- Texts are put together word by word if the first ends, or the second begins, in a blank. -/
lemma words_append
    (h : (∀ c ∈ l.getLast?, isBlank c = true) ∨ ∀ c ∈ r.head?, isBlank c = true) :
    words (l ++ r) = words l ++ words r := by
  obtain h | h := h
  · obtain rfl | ⟨before, c, rfl⟩ := List.eq_nil_or_concat' l
    · rfl
    · have hc := h c List.getLast?_concat
      rw [List.append_assoc, List.singleton_append, words_append_cons _ _ hc,
        words_append_cons _ _ hc]
      simp [words, wordsAfter]
  · cases r with
    | nil => simp [words, wordsAfter]
    | cons c after =>
      have hc := h c rfl
      rw [words_append_cons _ _ hc, ← List.nil_append (c :: after), words_append_cons _ _ hc]
      rfl

/-- There are no words in a blank text. -/
lemma words_of_blank (h : Blank cs) : words cs = [] := by
  rw [words_eq, List.filter_eq_nil_iff]
  induction cs with
  | nil => simp
  | cons c cs ih =>
    rw [List.splitOnP_cons_eq_if_modifyHead, if_pos (h c List.mem_cons_self)]
    simpa using ih fun d hd => h d (List.mem_cons_of_mem c hd)

/-- A text without white space is one word, unless it is empty. -/
lemma words_of_forall (h : ∀ c ∈ cs, isBlank c = false) (hne : cs ≠ []) : words cs = [cs] := by
  rw [words_eq, List.splitOnP_eq_singleton h]
  simpa using hne

/-- White space before a text adds no words. -/
lemma words_blank_append (h : Blank l) (r : List Char) : words (l ++ r) = words r := by
  rw [words_append (.inl fun c hc => h c (List.mem_of_getLast? hc)), words_of_blank h,
    List.nil_append]

/-- White space behind a text adds no words. -/
lemma words_append_of_blank (h : Blank r) (l : List Char) : words (l ++ r) = words l := by
  rw [words_append (.inr fun c hc => h c (List.mem_of_mem_head? hc)), words_of_blank h,
    List.append_nil]

/-- How many blanks there are between texts is of no account to their words. -/
lemma words_append_blank (hcs : Blank cs) (h : cs ≠ [] ∨ l = [] ∨ r = []) :
    words (l ++ cs ++ r) = words l ++ words r := by
  obtain hne | rfl | rfl := h
  · have hlast : ∀ c ∈ (l ++ cs).getLast?, isBlank c = true := by
      rw [List.getLast?_append_of_ne_nil _ hne]
      exact fun c hc => hcs c (List.mem_of_getLast? hc)
    rw [words_append (.inl hlast), words_append_of_blank hcs]
  · exact words_blank_append hcs r
  · rw [List.append_nil, words_append_of_blank hcs]
    exact (List.append_nil _).symm

/-- A text up to the first character of another kind. -/
lemma exists_append_of_head? (p : Char → Bool) (cs : List Char) :
    ∃ l r, cs = l ++ r ∧ (∀ c ∈ l, p c = true) ∧ ∀ c ∈ r.head?, p c = false := by
  refine ⟨cs.takeWhile p, cs.dropWhile p, List.takeWhile_append_dropWhile.symm,
    fun c hc => List.mem_takeWhile_imp hc, fun c hc => ?_⟩
  have hnot := List.head?_dropWhile_not p cs
  rwa [Option.mem_def.1 hc] at hnot

/-- A text is blank or begins with a word. -/
lemma blank_or_word (cs : List Char) :
    Blank cs ∨ ∃ l word r, cs = l ++ word ++ r ∧ Blank l ∧ word ≠ [] ∧
      (∀ c ∈ word, isBlank c = false) ∧ words cs = word :: words r := by
  obtain ⟨l, rest, rfl, hl, hfirst⟩ := exists_append_of_head? isBlank cs
  cases rest with
  | nil => exact .inl (by rwa [List.append_nil])
  | cons c rest =>
    -- the word goes up to the next blank
    obtain ⟨word, r, rfl, hrest, hr⟩ := exists_append_of_head? (fun c => !isBlank c) rest
    have hword : ∀ d ∈ c :: word, isBlank d = false :=
      List.forall_mem_cons.2 ⟨hfirst c rfl, by simpa using hrest⟩
    refine .inr ⟨l, c :: word, r, by simp, hl, by simp, hword, ?_⟩
    rw [words_blank_append hl, ← List.cons_append, words_append (.inr (by simpa using hr)),
      words_of_forall hword (by simp), List.singleton_append]

/-- A text without words is blank. -/
lemma words_eq_nil_iff : words cs = [] ↔ Blank cs := by
  refine ⟨fun h => ?_, words_of_blank⟩
  obtain hblank | ⟨l, word, r, -, -, -, -, hwords⟩ := blank_or_word cs
  · exact hblank
  · cases hwords.symm.trans h

/-- A single word is what is left when blanks are trimmed. -/
lemma words_eq_singleton_iff {word : List Char} :
    words cs = [word] ↔ trimChars cs = word ∧ word ≠ [] ∧ ∀ c ∈ word, isBlank c = false := by
  constructor
  · intro h
    obtain hblank | ⟨l, first, r, rfl, hl, hne, hfirst, hwords⟩ := blank_or_word cs
    · cases (words_of_blank hblank).symm.trans h
    · obtain ⟨rfl, hr⟩ := List.cons.inj (hwords.symm.trans h)
      exact ⟨by rw [trimChars_append hl (words_eq_nil_iff.1 hr), (bare_of_forall hfirst).trimChars_eq],
        hne, hfirst⟩
  · rintro ⟨rfl, hne, hword⟩
    obtain ⟨l, r, hl, hr, hcs⟩ := exists_eq_append_trimChars cs
    generalize trimChars cs = word at *
    rw [hcs, words_append_of_blank hr, words_blank_append hl, words_of_forall hword hne]

/-- The words of a text are those of another one, with each character replaced. -/
lemma words_map {f : Char → Char} (hf : ∀ c, isBlank (f c) = isBlank c) (cs : List Char) :
    words (cs.map f) = (words cs).map (List.map f) := by
  rw [words_eq, words_eq, splitOnP_map hf, List.filter_map]
  congr 2
  funext word
  simp

end RecordAccess
