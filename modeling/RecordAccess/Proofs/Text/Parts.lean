import Mathlib.Data.List.Basic
import Mathlib.Tactic.Common
import RecordAccess.Text.Parts

/-!
# Parts of texts

Cutting at a mark is the library's cutting (`splitAt_eq`), and texts joined by another one are the
library's joined texts (`joinTexts_eq`). What is put into a text without a mark comes to stand in one of
its parts (`exists_splitOn_append`). A text occurs in another one if it is an infix of it
(`occursIn_iff`). Taking doubled quotes as one undoes doubling them (`undoubled_doubled`).
-/

namespace RecordAccess

/-- A text is split where a mark stands. -/
lemma splitAt_eq (mark : Char) (cs : List Char) : splitAt mark cs = cs.splitOn mark := by
  induction cs with
  | nil => rfl
  | cons c cs ih =>
    rw [splitAt, List.splitOn_cons_eq_if_modifyHead, ih]
    by_cases hc : c = mark
    · simp [hc]
    · obtain ⟨part, parts, hparts⟩ := List.exists_cons_of_ne_nil (List.splitOn_ne_nil mark cs)
      simp [hc, hparts]

/-- There is no mark within the parts. -/
lemma not_mem_of_mem_splitOn {mark : Char} {cs part : List Char} (h : part ∈ cs.splitOn mark) :
    mark ∉ part := by
  induction cs generalizing part with
  | nil =>
    obtain rfl : part = [] := by simpa using h
    exact List.not_mem_nil
  | cons c cs ih =>
    rw [List.splitOn_cons_eq_if_modifyHead] at h
    split at h
    next =>
      obtain rfl | h := List.mem_cons.1 h
      · exact List.not_mem_nil
      · exact ih h
    next hc =>
      obtain ⟨first, parts, hparts⟩ := List.exists_cons_of_ne_nil (List.splitOn_ne_nil mark cs)
      rw [hparts, List.modifyHead_cons] at h
      obtain rfl | h := List.mem_cons.1 h
      · have hfirst : mark ∉ first := ih (by rw [hparts]; exact List.mem_cons_self)
        have hne : mark ≠ c := fun heq => hc (by simp [heq])
        exact List.not_mem_cons_of_ne_of_not_mem hne hfirst
      · exact ih (by rw [hparts]; exact List.mem_cons_of_mem _ h)

/-- The parts are kept by a replacement that keeps the marks apart from the other characters. -/
lemma splitOnP_map {f : Char → Char} {p : Char → Bool} (hf : ∀ c, p (f c) = p c) (cs : List Char) :
    (cs.map f).splitOnP p = (cs.splitOnP p).map (List.map f) := by
  induction cs with
  | nil => rfl
  | cons c cs ih =>
    obtain ⟨part, parts, hparts⟩ := List.exists_cons_of_ne_nil (List.splitOnP_ne_nil p cs)
    rw [hparts] at ih
    simp only [List.map_cons, List.splitOnP_cons_eq_if_modifyHead, hf, ih, hparts]
    cases p c <;> rfl

/-- What is put behind a text follows the last part of it. -/
lemma exists_last_part (mark : Char) (l : List Char) :
    ∃ before x, x <:+ l ∧ mark ∉ x ∧
      ∀ cs, (l ++ cs).splitOn mark = before ++ (x ++ cs).splitOn mark := by
  by_cases hmem : mark ∈ l
  · obtain ⟨x, before, hreverse, hx⟩ := List.eq_append_cons_of_mem (List.mem_reverse.2 hmem)
    have hl : l = before.reverse ++ mark :: x.reverse := by
      rw [← List.reverse_reverse l, hreverse]
      simp
    refine ⟨before.reverse.splitOn mark, x.reverse, ⟨before.reverse ++ [mark], by simp [hl]⟩,
      by simpa using hx, fun cs => ?_⟩
    rw [hl, List.append_assoc, List.cons_append, List.splitOn_append_cons_self]
  · exact ⟨[], l, List.suffix_rfl, hmem, fun cs => rfl⟩

/-- What is put before a text goes into the first part of it. -/
lemma exists_first_part (mark : Char) (r : List Char) :
    ∃ y after, y <+: r ∧ mark ∉ y ∧
      ∀ cs, mark ∉ cs → (cs ++ r).splitOn mark = (cs ++ y) :: after := by
  by_cases hmem : mark ∈ r
  · obtain ⟨y, after, rfl, hy⟩ := List.eq_append_cons_of_mem hmem
    refine ⟨y, after.splitOn mark, List.prefix_append _ _, hy, fun cs hcs => ?_⟩
    rw [← List.append_assoc]
    exact List.splitOn_append_cons_self_of_not_mem (by simp [hcs, hy]) after
  · refine ⟨r, [], List.prefix_rfl, hmem, fun cs hcs => ?_⟩
    exact List.splitOn_eq_singleton (by simp [hcs, hmem])

/-- What is put into a text comes to stand in one of its parts. -/
lemma exists_splitOn_append (mark : Char) (l r : List Char) :
    ∃ before x y after, x <:+ l ∧ mark ∉ x ∧ y <+: r ∧ mark ∉ y ∧
      ∀ cs, mark ∉ cs → (l ++ cs ++ r).splitOn mark = before ++ (x ++ cs ++ y) :: after := by
  obtain ⟨before, x, hsuffix, hx, hleft⟩ := exists_last_part mark l
  obtain ⟨y, after, hprefix, hy, hright⟩ := exists_first_part mark r
  refine ⟨before, x, y, after, hsuffix, hx, hprefix, hy, fun cs hcs => ?_⟩
  rw [List.append_assoc, hleft, ← List.append_assoc, hright (x ++ cs) (by simp [hx, hcs])]

/-- A mark that is not within a text stands before or behind it. -/
lemma append_eq_append_cons {mark : Char} {cs l r before after : List Char} (hcs : mark ∉ cs)
    (h : l ++ cs ++ r = before ++ mark :: after) :
    (∃ x, l = before ++ mark :: x ∧ after = x ++ cs ++ r) ∨
      ∃ y, before = l ++ cs ++ y ∧ r = y ++ mark :: after := by
  obtain ⟨y, hbefore, hr⟩ | ⟨rest, htext, hrest⟩ := List.append_eq_append_iff.1 h
  · exact .inr ⟨y, hbefore, hr⟩
  · cases rest with
    | nil => exact .inr ⟨[], by simpa using htext.symm, by simpa using hrest.symm⟩
    | cons c rest =>
      obtain ⟨rfl, rfl⟩ := List.cons.inj hrest
      obtain ⟨x, hbefore, hcs'⟩ | ⟨x, rfl, hx⟩ := List.append_eq_append_iff.1 htext
      · exact absurd (by simp [hcs']) hcs
      · cases x with
        | nil =>
          obtain rfl : _ = cs := hx
          exact absurd List.mem_cons_self hcs
        | cons c x =>
          obtain ⟨rfl, rfl⟩ := List.cons.inj hx
          exact .inl ⟨x, rfl, by simp⟩

/-- Texts are joined with the separator between them. -/
lemma joinTexts_eq (separator : String) (texts : List String) :
    joinTexts separator texts = separator.intercalate texts := by
  induction texts with
  | nil => rfl
  | cons text texts ih =>
    cases texts with
    | nil => rw [joinTexts, String.intercalate_singleton]
    | cons next texts =>
      have hcons : joinTexts separator (text :: next :: texts) =
          text ++ separator ++ joinTexts separator (next :: texts) := rfl
      rw [hcons, String.intercalate_cons_cons, ih]

/-- There is a text after a start if the text begins with it. -/
lemma isSome_afterStart?_iff (start text : List Char) :
    (afterStart? start text).isSome = true ↔ start <+: text := by
  constructor
  · intro h
    obtain ⟨rest, hrest⟩ := Option.isSome_iff_exists.1 h
    exact ⟨rest, (eq_append_of_afterStart? hrest).symm⟩
  · rintro ⟨rest, rfl⟩
    rw [afterStart?_append, Option.isSome_some]

/-- A part occurs in a text if it is a stretch of it. -/
lemma occursIn_iff (part text : List Char) : occursIn part text = true ↔ part <:+: text := by
  induction text with
  | nil => rw [occursIn, List.isEmpty_iff, List.infix_nil]
  | cons c rest ih =>
    rw [occursIn, Bool.or_eq_true, isSome_afterStart?_iff, ih, List.infix_cons_iff]

/-- Each quote that is written twice is read as one. -/
lemma undoubled_doubled (quote : Char) (cs : List Char) :
    undoubled quote (doubled quote cs) = cs := by
  induction cs with
  | nil => rfl
  | cons c cs ih =>
    by_cases hc : c = quote
    · simp [doubled, undoubled, hc, ih]
    · have hcons (cs : List Char) : undoubled quote (c :: cs) = c :: undoubled quote cs := by
        cases cs <;> simp [undoubled, hc]
      rw [doubled, if_neg hc, hcons, ih]

end RecordAccess
