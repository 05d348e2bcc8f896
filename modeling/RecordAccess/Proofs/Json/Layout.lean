import Mathlib.Data.List.Basic
import RecordAccess.Json.Text
import RecordAccess.Proofs.Json.Tokens

/-!
# Laid out JSON text

A value that is laid out some levels deeper has that many more tabs after each line feed of its text
(`layoutChars_add`). No string and no number brings a control character with it, so that the text has
line feeds between its lines only and no carriage return. To cut it into lines, and to join these again
with tabs in front of all but the first, is therefore the same (`padded_layoutChars`).
-/

namespace RecordAccess

/-- A text without control characters. -/
def Printed (cs : List Char) : Prop := ∀ c ∈ cs, 0x20 ≤ c.toNat

instance (cs : List Char) : Decidable (Printed cs) := List.decidableBAll _ cs

variable {cs cs' : List Char} {c : Char}

/-- Two texts together are without control characters if both are. -/
@[simp] lemma printed_append : Printed (cs ++ cs') ↔ Printed cs ∧ Printed cs' :=
  List.forall_mem_append

/-- A text without control characters does not have one. -/
lemma Printed.not_mem (h : Printed cs) (hc : c.toNat < 0x20) : c ∉ cs :=
  fun hmem => Nat.not_le.2 hc (h c hmem)

/-- What consists of characters of a printed text is printed. -/
lemma Printed.of_subset (h : Printed cs) (hsub : cs' ⊆ cs) : Printed cs' := fun c hc => h c (hsub hc)

/-- A character that is no control character can be repeated. -/
lemma printed_replicate (n : Nat) (hc : 0x20 ≤ c.toNat) : Printed (List.replicate n c) := by
  intro d hd
  rwa [List.eq_of_mem_replicate hd]

/-- Digits are no control characters. -/
lemma le_toNat_of_isDigit (h : c.isDigit = true) : 0x20 ≤ c.toNat :=
  Nat.le_trans (by decide) (Char.isDigit_iff_toNat.1 h).1

/-- The digits of a natural number are printed. -/
lemma printed_toDigits (n : Nat) : Printed (Nat.toDigits 10 n) :=
  fun c hc => le_toNat_of_isDigit ((numeral_toDigits n).isDigit c hc)

/-- The text of an integer is printed. -/
lemma printed_integerText (n : Int) : Printed (integerText n).toList := by
  intro c hc
  cases eq_minus_or_isDigit_of_mem_integerText hc with
  | inl hminus => exact hminus ▸ by decide
  | inr hdigit => exact le_toNat_of_isDigit hdigit

namespace FloatFormat
variable {format : FloatFormat} {digits : List Char}

/-- The plain text of a number is printed if its digits are. -/
lemma printed_plainText (hdigits : Printed digits) (exponent : Int) :
    Printed (format.plainText digits exponent).toList := by
  have hzeros (n : Nat) : Printed (List.replicate n '0') := printed_replicate n (by decide)
  have hpoint : Printed (if format.pointZero then ".0" else "").toList := by
    split <;> decide
  unfold plainText
  split
  · simp [hdigits, hzeros, hpoint]
  · have hpadded (n : Nat) : Printed (List.replicate n '0' ++ digits) :=
      printed_append.2 ⟨hzeros n, hdigits⟩
    have htake (n m : Nat) := (hpadded n).of_subset (List.take_subset m _)
    have hdrop (n m : Nat) := (hpadded n).of_subset (List.drop_subset m _)
    simp only [String.toList_append, String.toList_ofList, printed_append]
    exact ⟨⟨htake _ _, by decide⟩, hdrop _ _⟩

/-- The scientific text of a number is printed if its digits are. -/
lemma printed_scientificText (hdigits : Printed digits) (leading : Int) :
    Printed (format.scientificText digits leading).toList := by
  have hfirst := hdigits.of_subset (List.take_subset 1 digits)
  have hfraction : Printed
      (if (digits.drop 1).isEmpty then "" else "." ++ String.ofList (digits.drop 1)).toList := by
    split
    · decide
    · have hdrop : Printed (String.ofList (digits.drop 1)).toList :=
        String.toList_ofList ▸ hdigits.of_subset (List.drop_subset 1 digits)
      rw [String.toList_append]
      exact printed_append.2 ⟨by decide, hdrop⟩
  have hsign : Printed (if format.plusSign && decide (0 ≤ leading) then "+" else "").toList := by
    split <;> decide
  simp only [scientificText, String.toList_append, String.toList_ofList, printed_append]
  exact ⟨⟨⟨⟨hfirst, hfraction⟩, by decide⟩, hsign⟩, printed_integerText leading⟩

/-- No control character is in the text of a number, unless it is in that of no number or infinity. -/
lemma printed_text (hnan : Printed format.nan.toList) (hinfinity : Printed format.infinity.toList)
    (x : Binary64) : Printed (format.text x).toList := by
  have hminus (negative : Bool) : Printed (if negative then "-" else "").toList := by
    cases negative <;> decide
  cases x with
  | nan => exact hnan
  | infinite negative =>
    rw [text, String.toList_append]
    exact printed_append.2 ⟨hminus negative, hinfinity⟩
  | finite negative rank =>
    rw [text, String.toList_append]
    refine printed_append.2 ⟨hminus negative, ?_⟩
    split
    · exact printed_plainText (by decide) 0
    · unfold decimalText
      dsimp only
      split
      · exact printed_plainText (printed_toDigits _) _
      · exact printed_scientificText (printed_toDigits _) _

end FloatFormat

namespace Json
variable {piece : Piece} {d k : Nat} {v : Json}

/-- Every spelling of a character in a string is printed, also that of a control character. -/
lemma Spelled.printed (h : Spelled c cs piece) : Printed cs := by
  have hhex : ∀ n < 16, 0x20 ≤ (hexDigit n).toNat := by decide
  cases h with
  | plain _ _ hprinted => simpa [Printed] using hprinted
  | letter _ hprinted _ => simpa [Printed] using hprinted
  | unit hcontrol =>
    have hhigh := hhex (c.toNat / 16) (by omega)
    have hlow := hhex (c.toNat % 16) (by omega)
    simpa [Printed] using ⟨hhigh, hlow⟩

/-- Control characters of a string are escaped. -/
lemma printed_quote (text : String) : Printed (quote text) := by
  intro c hc
  rw [quote, List.mem_cons, List.mem_append, List.mem_flatMap] at hc
  rcases hc with rfl | ⟨e, -, hc⟩ | hc
  · decide
  · exact (spelled_escapeChar e).printed c hc
  · exact List.eq_of_mem_singleton hc ▸ by decide

/-- The text of a scalar is printed, so that it is on one line. -/
lemma printed_scalarChars (v : Json) : Printed (scalarChars v) := by
  cases v with
  | bool b => cases b <;> decide
  | int n => exact printed_integerText n
  | string text => exact printed_quote text
  | float x =>
    rw [scalarChars, floatText]
    split
    · exact FloatFormat.printed_text (by decide) (by decide) x
    · decide
  | _ =>
    have hnull : Printed "null".toList := by decide
    exact hnull

/-- A value that holds no other values. -/
inductive Scalar : Json → Prop
  | null : Scalar null
  | bool (b : Bool) : Scalar (bool b)
  | int (n : Int) : Scalar (int n)
  | float (x : Binary64) : Scalar (float x)
  | string (text : String) : Scalar (string text)

/-- What holds of scalars, and of each container if it does of all that this holds, is true of a value. -/
theorem nested_induction {motive : Json → Prop} (scalar : ∀ v, Scalar v → motive v)
    (array : ∀ items, (∀ item ∈ items, motive item) → motive (array items))
    (object : ∀ members, (∀ m ∈ members, motive m.2) → motive (object members)) (v : Json) :
    motive v := by
  refine @Json.rec motive (fun items => ∀ item ∈ items, motive item)
    (fun members => ∀ m ∈ members, motive m.2) (fun m => motive m.2)
    ?null ?bool ?int ?float ?string array object ?noItem ?items ?noMember ?members ?member v
  case null => exact scalar _ .null
  case bool => exact fun b => scalar _ (.bool b)
  case int => exact fun n => scalar _ (.int n)
  case float => exact fun x => scalar _ (.float x)
  case string => exact fun text => scalar _ (.string text)
  case noItem => exact List.forall_mem_nil _
  case items => exact fun _ _ hitem hitems => List.forall_mem_cons.2 ⟨hitem, hitems⟩
  case noMember => exact List.forall_mem_nil _
  case members => exact fun _ _ hm hmembers => List.forall_mem_cons.2 ⟨hm, hmembers⟩
  case member => exact fun _ _ hm => hm

/-- A scalar is laid out as its text, whatever the depth. -/
lemma layoutChars_of_scalar (h : Scalar v) (d : Nat) : layoutChars d v = scalarChars v := by
  cases h <;> rfl

/-- The lines of an item of an array. -/
def itemLines (d : Nat) (item : Json) : List Char := lineStart d ++ layoutChars d item

/-- The lines of a member of an object. -/
def memberLines (d : Nat) (m : String × Json) : List Char :=
  lineStart d ++ (quote m.1 ++ ':' :: ' ' :: layoutChars d m.2)

/-- The items of an array are laid out as their lines with commas between. -/
lemma layoutItems_eq (d : Nat) (items : List Json) :
    layoutItems d items = [','].intercalate (items.map (itemLines d)) := by
  induction items with
  | nil => rfl
  | cons item rest ih =>
    cases rest with
    | nil => simp [layoutItems, itemLines]
    | cons next rest =>
      rw [List.map_cons, List.intercalate_cons_of_ne_nil (by simp), ← ih]
      simp [layoutItems, itemLines]

/-- The members of an object are laid out as their lines with commas between. -/
lemma layoutMembers_eq (d : Nat) (members : List (String × Json)) :
    layoutMembers d members = [','].intercalate (members.map (memberLines d)) := by
  induction members with
  | nil => rfl
  | cons m rest ih =>
    cases rest with
    | nil => simp [layoutMembers, memberLines]
    | cons next rest =>
      rw [List.map_cons, List.intercalate_cons_of_ne_nil (by simp), ← ih]
      simp [layoutMembers, memberLines]

/-- The lines of a container that is not empty, between its brackets. -/
def block (opening closing : Char) (d : Nat) (parts : List (List Char)) : List Char :=
  opening :: ([','].intercalate parts ++ (lineStart d ++ [closing]))

/-- An array with items is laid out as a block in brackets, with the items one level deeper. -/
lemma layoutChars_array (d : Nat) {items : List Json} (h : items ≠ []) :
    layoutChars d (array items) = block '[' ']' d (items.map (itemLines (d + 1))) := by
  rw [block, ← layoutItems_eq]
  cases items with
  | nil => exact absurd rfl h
  | cons item rest => rfl

/-- An object with members is laid out as a block in braces, with the members one level deeper. -/
lemma layoutChars_object (d : Nat) {members : List (String × Json)} (h : members ≠ []) :
    layoutChars d (object members) = block '{' '}' d (members.map (memberLines (d + 1))) := by
  rw [block, ← layoutMembers_eq]
  cases members with
  | nil => exact absurd rfl h
  | cons m rest => rfl

/-- A text with some tabs after each line feed. -/
def indented (k : Nat) (cs : List Char) : List Char :=
  cs.flatMap fun c => if c = '\n' then lineStart k else [c]

/-- Two texts are indented one after the other. -/
lemma indented_append (k : Nat) (cs cs' : List Char) :
    indented k (cs ++ cs') = indented k cs ++ indented k cs' := List.flatMap_append

/-- A character other than the line feed is left by indenting. -/
lemma indented_cons (k : Nat) (hc : c ≠ '\n') : indented k (c :: cs) = c :: indented k cs := by
  simp [indented, hc]

/-- A line feed becomes the start of a line with the tabs behind it. -/
lemma indented_lineFeed (k : Nat) (cs : List Char) :
    indented k ('\n' :: cs) = lineStart k ++ indented k cs := rfl

/-- A text of one line is left by indenting. -/
lemma indented_eq_self (k : Nat) (h : '\n' ∉ cs) : indented k cs = cs := by
  induction cs with
  | nil => rfl
  | cons c cs ih =>
    obtain ⟨hc, hcs⟩ := not_or.1 (mt List.mem_cons.2 h)
    rw [indented_cons k (Ne.symm hc), ih hcs]

/-- The start of a line is indented to that of a deeper one. -/
lemma indented_lineStart (k d : Nat) : indented k (lineStart d) = lineStart (d + k) := by
  have htabs : '\n' ∉ List.replicate d '\t' := fun h => absurd (List.eq_of_mem_replicate h) (by decide)
  rw [lineStart, indented_lineFeed, indented_eq_self k htabs, lineStart, List.cons_append,
    List.replicate_append_replicate, Nat.add_comm]
  rfl

/-- Parts with commas between are indented one by one. -/
lemma indented_intercalate (k : Nat) (parts : List (List Char)) :
    indented k ([','].intercalate parts) = [','].intercalate (parts.map (indented k)) := by
  induction parts with
  | nil => rfl
  | cons part rest ih =>
    cases rest with
    | nil => simp
    | cons next rest =>
      rw [List.intercalate_cons_cons, indented_append, indented_append, ih]
      simp only [List.map_cons, List.intercalate_cons_cons]
      rfl

/-- A block is indented to the block at the greater depth, of the indented parts. -/
lemma indented_block (k d : Nat) {opening closing : Char} (hopening : opening ≠ '\n')
    (hclosing : closing ≠ '\n') (parts : List (List Char)) :
    indented k (block opening closing d parts) =
      block opening closing (d + k) (parts.map (indented k)) := by
  rw [block, indented_cons k hopening, indented_append, indented_append, indented_intercalate,
    indented_lineStart, indented_cons k hclosing]
  rfl

/-- A value that is laid out deeper has so many more tabs after each line feed. -/
theorem layoutChars_add (k d : Nat) (v : Json) :
    layoutChars (d + k) v = indented k (layoutChars d v) := by
  induction v using nested_induction generalizing d with
  | scalar v h =>
    rw [layoutChars_of_scalar h, layoutChars_of_scalar h]
    exact (indented_eq_self k ((printed_scalarChars v).not_mem (by decide))).symm
  | array items ih =>
    obtain rfl | hne := eq_or_ne items []
    · rfl
    · have hlines : ∀ item ∈ items, itemLines (d + k + 1) item =
          indented k (itemLines (d + 1) item) := by
        intro item hitem
        rw [itemLines, itemLines, indented_append, indented_lineStart, ← ih item hitem,
          Nat.add_right_comm]
      rw [layoutChars_array d hne, layoutChars_array (d + k) hne,
        indented_block k d (by decide) (by decide), List.map_map, List.map_congr_left hlines]
      rfl
  | object members ih =>
    obtain rfl | hne := eq_or_ne members []
    · rfl
    · have hlines : ∀ m ∈ members, memberLines (d + k + 1) m =
          indented k (memberLines (d + 1) m) := by
        intro m hm
        have hkey : indented k (quote m.1) = quote m.1 :=
          indented_eq_self k ((printed_quote m.1).not_mem (by decide))
        rw [memberLines, memberLines, indented_append, indented_lineStart, indented_append, hkey,
          indented_cons k (by decide), indented_cons k (by decide), ← ih m hm, Nat.add_right_comm]
      rw [layoutChars_object d hne, layoutChars_object (d + k) hne,
        indented_block k d (by decide) (by decide), List.map_map, List.map_congr_left hlines]
      rfl

/-- The lines of a text, without the line feeds that end them and a carriage return before each. -/
def lines : List Char → List (List Char)
  | [] => []
  | c :: rest =>
    if c = '\n' then [] :: lines rest
    else if c = '\r' ∧ rest.head? = some '\n' then lines rest
    else
      match lines rest with
      | line :: later => (c :: line) :: later
      | [] => [[c]]

/-- A text cut into lines and joined again, with some tabs in front of all but the first. -/
def padded (k : Nat) (cs : List Char) : List Char :=
  match lines cs with
  | [] => []
  | line :: later => ['\n'].intercalate (line :: later.map fun l => List.replicate k '\t' ++ l)

/-- Lines joined behind tabs are the first line, and each later one behind the start of a line. -/
lemma intercalate_lines (k : Nat) (line : List Char) (later : List (List Char)) :
    ['\n'].intercalate (line :: later.map fun l => List.replicate k '\t' ++ l) =
      line ++ later.flatMap fun l => lineStart k ++ l := by
  induction later generalizing line with
  | nil => simp
  | cons next later ih =>
    rw [List.map_cons, List.intercalate_cons_cons, ih]
    simp [lineStart]

/-- A text that begins with a character other than the carriage return has a first line. -/
lemma lines_cons_ne_nil (hc : c ≠ '\r') (cs : List Char) : lines (c :: cs) ≠ [] := by
  have hstays : ¬ (c = '\r' ∧ cs.head? = some '\n') := fun h => hc h.1
  rw [lines, if_neg hstays]
  split
  · exact List.cons_ne_nil _ _
  · split <;> exact List.cons_ne_nil _ _

/-- Without carriage returns, cutting into lines loses a line feed at the end only. -/
theorem padded_eq_indented (k : Nat) (hreturn : '\r' ∉ cs) (hlast : cs.getLast? ≠ some '\n') :
    padded k cs = indented k cs := by
  induction cs with
  | nil => rfl
  | cons c cs ih =>
    obtain ⟨hc, hcs⟩ := not_or.1 (mt List.mem_cons.2 hreturn)
    by_cases hfeed : c = '\n'
    · subst hfeed
      cases cs with
      | nil => exact absurd rfl hlast
      | cons d cs =>
        have hd : d ≠ '\r' := fun h => hcs (h ▸ List.mem_cons_self)
        specialize ih hcs (by simpa using hlast)
        obtain ⟨line, later, hlines⟩ := List.exists_cons_of_ne_nil (lines_cons_ne_nil hd cs)
        rw [padded, hlines] at ih
        rw [indented_lineFeed, ← ih, padded, lines, if_pos rfl, hlines]
        simp only [intercalate_lines, List.flatMap_cons, List.nil_append, List.append_assoc]
    · have hstays : ¬ (c = '\r' ∧ cs.head? = some '\n') := fun h => hc h.1.symm
      have hlast : cs.getLast? ≠ some '\n' := by
        cases cs with
        | nil => nofun
        | cons d cs => simpa using hlast
      specialize ih hcs hlast
      rw [indented_cons k hfeed, ← ih, padded, padded, lines, if_neg hfeed, if_neg hstays]
      cases lines cs with
      | nil => rfl
      | cons line later => simp only [intercalate_lines, List.cons_append]

/-- What is in joined parts is in the separator or in a part. -/
lemma mem_intercalate {sep : List Char} {parts : List (List Char)} (h : c ∈ sep.intercalate parts) :
    c ∈ sep ∨ ∃ part ∈ parts, c ∈ part := by
  induction parts with
  | nil => cases h
  | cons part rest ih =>
    cases rest with
    | nil => exact .inr ⟨part, List.mem_cons_self, by simpa using h⟩
    | cons next rest =>
      rw [List.intercalate_cons_cons, List.mem_append, List.mem_append] at h
      rcases h with (hpart | hsep) | hrest
      · exact .inr ⟨part, List.mem_cons_self, hpart⟩
      · exact .inl hsep
      · refine (ih hrest).imp_right ?_
        rintro ⟨other, hother, hmem⟩
        exact ⟨other, List.mem_cons_of_mem _ hother, hmem⟩

/-- The start of a line has a line feed and tabs in it. -/
lemma mem_lineStart (h : c ∈ lineStart d) : c = '\n' ∨ c = '\t' :=
  (List.mem_cons.1 h).imp_right List.eq_of_mem_replicate

/-- A block has its brackets, commas, line feeds and tabs in it, and what its parts have. -/
lemma mem_block {opening closing : Char} {parts : List (List Char)}
    (h : c ∈ block opening closing d parts) :
    c ∈ [opening, closing, ',', '\n', '\t'] ∨ ∃ part ∈ parts, c ∈ part := by
  rw [block, List.mem_cons, List.mem_append, List.mem_append] at h
  rcases h with rfl | hparts | hstart | hclosing
  · exact .inl List.mem_cons_self
  · exact (mem_intercalate hparts).imp_left fun h => by simp [List.mem_singleton.1 h]
  · exact .inl (by rcases mem_lineStart hstart with rfl | rfl <;> simp)
  · exact .inl (by simp [List.mem_singleton.1 hclosing])

/-- A laid out value has no carriage return in it, which would be taken for a part of a line end. -/
lemma carriageReturn_not_mem_layoutChars (d : Nat) (v : Json) : '\r' ∉ layoutChars d v := by
  induction v using nested_induction generalizing d with
  | scalar v h =>
    rw [layoutChars_of_scalar h]
    exact (printed_scalarChars v).not_mem (by decide)
  | array items ih =>
    obtain rfl | hne := eq_or_ne items []
    · exact of_decide_eq_true rfl
    · rw [layoutChars_array d hne]
      intro hmem
      rcases mem_block hmem with hmem | ⟨_, hpart, hmem⟩
      · exact absurd hmem (by decide)
      · obtain ⟨item, hitem, rfl⟩ := List.mem_map.1 hpart
        rcases List.mem_append.1 hmem with hmem | hmem
        · exact absurd (mem_lineStart hmem) (by decide)
        · exact ih item hitem (d + 1) hmem
  | object members ih =>
    obtain rfl | hne := eq_or_ne members []
    · exact of_decide_eq_true rfl
    · rw [layoutChars_object d hne]
      intro hmem
      rcases mem_block hmem with hmem | ⟨_, hpart, hmem⟩
      · exact absurd hmem (by decide)
      · obtain ⟨m, hm, rfl⟩ := List.mem_map.1 hpart
        simp only [memberLines, List.mem_append, List.mem_cons] at hmem
        rcases hmem with hmem | hmem | hmem | hmem | hmem
        · exact absurd (mem_lineStart hmem) (by decide)
        · exact (printed_quote m.1).not_mem (by decide) hmem
        · exact absurd hmem (by decide)
        · exact absurd hmem (by decide)
        · exact ih m hm (d + 1) hmem

/-- A block ends with its closing bracket. -/
lemma getLast?_block (opening closing : Char) (d : Nat) (parts : List (List Char)) :
    (block opening closing d parts).getLast? = some closing := by
  rw [block, ← List.append_assoc, ← List.cons_append, List.getLast?_concat]

/-- A laid out value does not end with a line feed. -/
lemma getLast?_layoutChars (d : Nat) (v : Json) : (layoutChars d v).getLast? ≠ some '\n' := by
  have hscalar {v : Json} (h : Scalar v) : (layoutChars d v).getLast? ≠ some '\n' := by
    intro hlast
    rw [layoutChars_of_scalar h] at hlast
    exact (printed_scalarChars v).not_mem (by decide) (List.mem_of_getLast? hlast)
  cases v with
  | array items =>
    obtain rfl | hne := eq_or_ne items []
    · exact of_decide_eq_true rfl
    · rw [layoutChars_array d hne, getLast?_block]
      decide
  | object members =>
    obtain rfl | hne := eq_or_ne members []
    · exact of_decide_eq_true rfl
    · rw [layoutChars_object d hne, getLast?_block]
      decide
  | null => exact hscalar .null
  | bool b => exact hscalar (.bool b)
  | int n => exact hscalar (.int n)
  | float x => exact hscalar (.float x)
  | string text => exact hscalar (.string text)

/-- The laid out text of a value that stands deeper is the one cut into lines and joined again. -/
theorem padded_layoutChars (k d : Nat) (v : Json) :
    padded k (layoutChars d v) = layoutChars (d + k) v :=
  (padded_eq_indented k (carriageReturn_not_mem_layoutChars d v) (getLast?_layoutChars d v)).trans
    (layoutChars_add k d v).symm

end Json
end RecordAccess
