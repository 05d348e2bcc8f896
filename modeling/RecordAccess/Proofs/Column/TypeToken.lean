import Mathlib.Data.List.TakeDrop
import RecordAccess.Column.Mapping
import RecordAccess.Proofs.Number.Numeral
import RecordAccess.Proofs.Text.Blank
import RecordAccess.Proofs.Text.LetterCase

/-!
# The grammar of declared types

A declared type is spelled with words and with at most one list of numbers in parentheses among them
(`Spells`). A token is read from each text that spells it and from no other (`ofText?_eq_some_iff`).
-/

namespace RecordAccess.TypeToken

/-- A text without parentheses. -/
def Plain (cs : List Char) : Prop := ∀ c ∈ cs, isParenthesis c = false

/-- A text with at most one pair of parentheses, and what it is cut into. -/
inductive Cut : List Char → List Char × Option (List Char) × List Char → Prop where
  | words {text} :
    Plain text →
    Cut text (text, none, [])
  | listed {before list after} :
    Plain before →
    Plain list →
    Plain after →
    Cut (before ++ '(' :: (list ++ ')' :: after)) (before, some list, after)

/-- A decimal number below 2⁶⁴, maybe after a plus sign, with blanks around. -/
def Listed (part : List Char) (n : Nat) : Prop :=
  ∃ l digits r, Blank l ∧ Blank r ∧ (part = l ++ digits ++ r ∨ part = l ++ '+' :: digits ++ r) ∧
    Numeral digits n ∧ n < UInt64.size

/-- The numbers in the parentheses, parted by commas, or none without parentheses. -/
inductive Lists : Option (List Char) → List Nat → Prop where
  | none :
    Lists none []
  | some {list args} :
    List.Forall₂ Listed (list.splitOn ',') args →
    Lists (some list) args

/-- The words of a text in lowercase. -/
def names (cs : List Char) : List String :=
  ((cs.splitOnP isBlank).filter fun word => !word.isEmpty).map fun word =>
    lowercase (String.ofList word)

/-- The token of a list of words and a list of numbers. -/
def ofNames (names : List String) (args : List Nat) : TypeToken where
  base := " ".intercalate (names.filter fun name => name ≠ "unsigned" ∧ name ≠ "zerofill")
  args := args
  unsigned := "unsigned" ∈ names

/-- A text that spells a token. -/
inductive Spells (text : List Char) : TypeToken → Prop where
  | spelled {before list after args} :
    Cut text (before, list, after) →
    Lists list args →
    Spells text (ofNames (names before ++ names after) args)

variable {before list after part text cs : List Char} {args : List Nat} {n : Nat}
  {parts : List Char × Option (List Char) × List Char} {token : TypeToken}

/-- A text is spanned up to its first parenthesis. -/
lemma span_of_plain (h : Plain before) (after : List Char)
    (hafter : ∀ c ∈ after.head?, isParenthesis c = true) :
    (before ++ after).span (fun c => !isParenthesis c) = (before, after) := by
  have hbefore : ∀ c ∈ before, (!isParenthesis c) = true := fun c hc => by simp [h c hc]
  rw [List.span_eq_takeWhile_dropWhile, List.takeWhile_append_of_pos hbefore,
    List.dropWhile_append_of_pos hbefore]
  cases after with
  | nil => simp
  | cons c after =>
    have hc := hafter c rfl
    simp [hc]

/-- Every text begins with a plain part, which is what the span takes. -/
lemma exists_span_eq (text : List Char) :
    ∃ before rest, text.span (fun c => !isParenthesis c) = (before, rest) ∧ text = before ++ rest ∧
      Plain before := by
  refine ⟨_, _, List.span_eq_takeWhile_dropWhile _ text, List.takeWhile_append_dropWhile.symm, ?_⟩
  exact fun c hc => by simpa using List.mem_takeWhile_imp hc

/-- Cutting a text succeeds with the parts that it has, and only if it has at most one pair of
parentheses. -/
lemma cut?_eq_some_iff : cut? text = some parts ↔ Cut text parts := by
  constructor
  · intro h
    obtain ⟨before, rest, hspan, rfl, hbefore⟩ := exists_span_eq text
    simp only [cut?, hspan] at h
    split at h
    · cases h
      rw [List.append_nil]
      exact .words hbefore
    · next rest =>
      obtain ⟨list, rest, hspan, rfl, hlist⟩ := exists_span_eq rest
      simp only [hspan] at h
      split at h
      · next after =>
        split at h
        · cases h
        · next hafter =>
          cases h
          exact .listed hbefore hlist (by simpa [Plain] using hafter)
      · cases h
    · cases h
  · intro h
    cases h with
    | words hplain =>
      have hspan := span_of_plain hplain [] nofun
      rw [List.append_nil] at hspan
      rw [cut?, hspan]
    | @listed before list after hbefore hlist hafter =>
      have hopening := span_of_plain hbefore ('(' :: (list ++ ')' :: after)) (by simp [isParenthesis])
      have hclosing := span_of_plain hlist (')' :: after) (by simp [isParenthesis])
      have hany : after.any isParenthesis = false := by simpa [Plain] using hafter
      simp only [cut?, hopening, hclosing, hany]
      rfl

/-- A number that is read has no blanks in it, and at least one character. -/
lemma isBlank_of_unsigned64? (h : unsigned64? cs = some n) :
    cs ≠ [] ∧ ∀ c ∈ cs, isBlank c = false := by
  obtain ⟨digits, hdigits, hn, -⟩ := unsigned64?_eq_some_iff.1 h
  have hblank : ∀ c ∈ digits, isBlank c = false := fun c hc => isBlank_of_isDigit (hn.isDigit c hc)
  obtain rfl | rfl := hdigits
  · exact ⟨hn.ne_nil, hblank⟩
  · exact ⟨by simp, List.forall_mem_cons.2 ⟨by decide, hblank⟩⟩

/-- The number of a part is read with the blanks around it left out. -/
lemma unsigned64?_trimChars_eq_some_iff : unsigned64? (trimChars part) = some n ↔ Listed part n := by
  constructor
  · intro h
    obtain ⟨digits, hdigits, hn⟩ := unsigned64?_eq_some_iff.1 h
    obtain ⟨l, r, hl, hr, hpart⟩ := exists_eq_append_trimChars part
    refine ⟨l, digits, r, hl, hr, ?_, hn⟩
    obtain h | h := hdigits
    · exact .inl (h ▸ hpart)
    · exact .inr (h ▸ hpart)
  · rintro ⟨l, digits, r, hl, hr, hpart, hn⟩
    obtain ⟨core, hcore, rfl⟩ : ∃ core, (core = digits ∨ core = '+' :: digits) ∧
        part = l ++ core ++ r := by
      obtain rfl | rfl := hpart
      · exact ⟨_, .inl rfl, rfl⟩
      · exact ⟨_, .inr rfl, rfl⟩
    have hread := unsigned64?_eq_some_iff.2 ⟨digits, hcore, hn⟩
    rw [trimChars_append hl hr, (bare_of_forall (isBlank_of_unsigned64? hread).2).trimChars_eq, hread]

/-- A number in a list is the only word of its part. -/
lemma unsigned64?_trimChars_eq_some_iff_words :
    unsigned64? (trimChars part) = some n ↔ ∃ word, words part = [word] ∧ unsigned64? word = some n := by
  constructor
  · intro h
    exact ⟨_, words_eq_singleton_iff.2 ⟨rfl, isBlank_of_unsigned64? h⟩, h⟩
  · rintro ⟨word, hword, h⟩
    rwa [(words_eq_singleton_iff.1 hword).1]

/-- All numbers are read from the parts if each part is the text of its number. -/
lemma numbers?_eq_some_iff {parts : List (List Char)} :
    numbers? parts = some args ↔ List.Forall₂ Listed parts args := by
  induction parts generalizing args with
  | nil =>
    constructor
    · rintro ⟨⟩
      exact .nil
    · rintro ⟨⟩
      rfl
  | cons part parts ih =>
    constructor
    · intro h
      obtain ⟨n, hn, h⟩ := Option.bind_eq_some_iff.1 h
      obtain ⟨ns, hns, h⟩ := Option.bind_eq_some_iff.1 h
      cases h
      exact .cons (unsigned64?_trimChars_eq_some_iff.1 hn) (ih.1 hns)
    · rintro (_ | ⟨hn, hns⟩)
      simp [numbers?, unsigned64?_trimChars_eq_some_iff.2 hn, ih.2 hns]

/-- The numbers in the parentheses, if all of them can be read. -/
def args? (list : Option (List Char)) : Option (List Nat) :=
  list.elim (some []) fun list => numbers? (list.splitOn ',')

/-- The numbers in the parentheses are those that the list has. -/
lemma args?_eq_some_iff {list : Option (List Char)} : args? list = some args ↔ Lists list args := by
  cases list with
  | none =>
    constructor
    · rintro ⟨⟩
      exact .none
    · rintro ⟨⟩
      rfl
  | some list =>
    rw [args?, Option.elim_some, numbers?_eq_some_iff]
    exact ⟨.some, fun h => by cases h; assumption⟩

/-- The names are the words of the text, each in lowercase. -/
lemma names_eq (cs : List Char) :
    names cs = (words cs).map fun word => lowercase (String.ofList word) := by
  rw [names, words_eq]

/-- The token of some names, with the two words that only mark a number left out of its name. -/
lemma ofNames_eq (names : List String) (args : List Nat) :
    ofNames names args =
      { base := joinTexts " " (names.filter fun w => w != "unsigned" && w != "zerofill")
        args
        unsigned := names.any fun w => w == "unsigned" } := by
  have hfilter : names.filter (fun name => name ≠ "unsigned" ∧ name ≠ "zerofill") =
      names.filter fun w => w != "unsigned" && w != "zerofill" :=
    List.filter_congr fun name _ => by simp [bne, beq_eq_decide]
  have hany : decide ("unsigned" ∈ names) = names.any fun w => w == "unsigned" := by
    simp [List.any_beq']
  rw [ofNames, joinTexts_eq, hfilter, hany]

/-- Reading a type is cutting its text, reading the numbers and lowering the words on either side. -/
lemma ofText?_eq (text : String) :
    ofText? text = (cut? text.toList).bind fun (before, list, after) =>
      (args? list).map (ofNames (names before ++ names after)) := by
  rw [ofText?, Option.bind_eq_bind]
  congr 1
  funext ⟨before, list, after⟩
  simp only [Option.map_eq_bind, Function.comp_def, ofNames_eq, names_eq, ← List.map_append]
  cases list with
  | none => rfl
  | some list =>
    simp only [args?, Option.elim_some, splitAt_eq]
    rfl

/-- Of a text that is cut, the token is that of its words and its numbers, if these can be read. -/
lemma ofText?_of_cut {list : Option (List Char)} (h : Cut text (before, list, after)) :
    ofText? (String.ofList text) = (args? list).map (ofNames (names before ++ names after)) := by
  rw [ofText?_eq, String.toList_ofList, cut?_eq_some_iff.2 h, Option.bind_some]

/-- A text that cannot be cut spells no token. -/
lemma ofText?_of_not_cut (h : ∀ parts, ¬ Cut text parts) : ofText? (String.ofList text) = none := by
  have hcut : cut? text = none :=
    Option.eq_none_iff_forall_ne_some.2 fun parts hparts => h parts (cut?_eq_some_iff.1 hparts)
  rw [ofText?_eq, String.toList_ofList, hcut, Option.bind_none]

/-- A token is read from the texts that spell it. -/
lemma ofText?_eq_some_iff : ofText? (String.ofList text) = some token ↔ Spells text token := by
  constructor
  · intro h
    rw [ofText?_eq, String.toList_ofList] at h
    obtain ⟨⟨before, list, after⟩, hcut, h⟩ := Option.bind_eq_some_iff.1 h
    obtain ⟨args, hargs, rfl⟩ := Option.map_eq_some_iff.1 h
    exact .spelled (cut?_eq_some_iff.1 hcut) (args?_eq_some_iff.1 hargs)
  · rintro ⟨hcut, hlist⟩
    rw [ofText?_of_cut hcut, args?_eq_some_iff.2 hlist, Option.map_some]

end RecordAccess.TypeToken
