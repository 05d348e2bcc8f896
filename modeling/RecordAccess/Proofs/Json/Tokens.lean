import RecordAccess.Json.Text
import RecordAccess.Json.Token
import RecordAccess.Proofs.Number.Numeral

/-!
# Tokens of JSON text

What is written for a string or an integer is read as one token (`lexes_quote`, `lexes_integerText`). A
word is over where a space, a punctuation character or a quote follows, and a text is taken apart there
(`Lexes.append_cons`). Of a character in a string the reader makes one piece (`pieceOf`), whether it was
written as it is or escaped.
-/

namespace RecordAccess.Json

/-- A word that stands before some characters is over. -/
def Ends (rest : List Char) : Prop := ∀ c ∈ rest.head?, endsWord c = true

/-- Some characters are read as some tokens, wherever a word that they end with is over. -/
def Lexes (cs : List Char) (tokens : List Token) : Prop :=
  ∀ rest, Ends rest →
    tokensAfter? .nothing (cs ++ rest) = (tokensAfter? .nothing rest).map fun later => tokens ++ later

variable {cs cs' w rest : List Char} {tokens tokens' : List Token} {c : Char} {token : Token}

/-- A word is over at the end of the text. -/
lemma ends_nil : Ends [] := nofun

/-- A word is over before a character that ends it. -/
lemma ends_cons (h : endsWord c = true) (rest : List Char) : Ends (c :: rest) := by
  rintro _ ⟨⟩
  exact h

/-- A character that finishes some tokens puts them before those that follow. -/
lemma tokensAfter?_cons {unfinished next : Unfinished} (h : read c unfinished = some (tokens, next)) :
    tokensAfter? unfinished (c :: rest) =
      (tokensAfter? next rest).map fun later => tokens ++ later := by
  rw [tokensAfter?, h]

/-- A character that finishes no token leaves those that follow. -/
lemma tokensAfter?_cons_nil {unfinished next : Unfinished} (h : read c unfinished = some ([], next)) :
    tokensAfter? unfinished (c :: rest) = tokensAfter? next rest := by
  rw [tokensAfter?_cons h]
  exact Option.map_id_apply

/-- No characters are read as no tokens. -/
lemma lexes_nil : Lexes [] [] := fun _ _ => Option.map_id_apply.symm

/-- Two texts are read one after the other, if a word is over where the second one begins. -/
lemma Lexes.append_cons (h : Lexes cs tokens) (h' : Lexes (c :: cs') tokens')
    (hc : endsWord c = true) : Lexes (cs ++ c :: cs') (tokens ++ tokens') := by
  intro rest hrest
  have hfirst := h (c :: cs' ++ rest) (ends_cons hc _)
  rw [List.append_assoc, hfirst, h' rest hrest, Option.map_map]
  simp [Function.comp_def]

/-- A space before some characters adds no token. -/
lemma Lexes.after_space (h : Lexes cs tokens) (hc : isSpace c = true) : Lexes (c :: cs) tokens := by
  intro rest hrest
  have hread : read c .nothing = some ([], .nothing) := by simp [read, between, hc]
  rw [List.cons_append, tokensAfter?_cons_nil hread, h rest hrest]

/-- Any white space before some characters adds no token. -/
lemma Lexes.after_spaces (h : Lexes cs tokens) {spaces : List Char}
    (hspaces : ∀ c ∈ spaces, isSpace c = true) : Lexes (spaces ++ cs) tokens := by
  induction spaces with
  | nil => exact h
  | cons c spaces ih =>
    obtain ⟨hc, hspaces⟩ := List.forall_mem_cons.1 hspaces
    exact (ih hspaces).after_space hc

/-- Punctuation is no white space. -/
lemma isSpace_of_punctuation? (h : punctuation? c = some token) : isSpace c = false := by
  unfold punctuation? at h
  repeat' split at h
  all_goals first | (subst_vars; decide) | cases h

/-- A punctuation character before some others adds its token. -/
lemma Lexes.after_punctuation (h : Lexes cs tokens) (hc : punctuation? c = some token) :
    Lexes (c :: cs) (token :: tokens) := by
  intro rest hrest
  have hread : read c .nothing = some ([token], .nothing) := by
    simp [read, between, isSpace_of_punctuation? hc, hc]
  rw [List.cons_append, tokensAfter?_cons hread, h rest hrest, Option.map_map]
  rfl

/-- What ends a word is read as if it stood alone. -/
lemma read_word (hc : endsWord c = true) (hw : wordToken? w = some token) :
    read c (.word w.reverse) = (read c .nothing).map fun (tokens, next) => (token :: tokens, next) := by
  simp [read, hc, hw]

/-- A word up to its end is read as the token of its characters. -/
lemma tokensAfter?_word (hw : ∀ c ∈ w, endsWord c = false) {before : List Char}
    (htoken : wordToken? (before ++ w) = some token) (hrest : Ends rest) :
    tokensAfter? (.word before.reverse) (w ++ rest) =
      (tokensAfter? .nothing rest).map fun later => token :: later := by
  induction w generalizing before with
  | nil =>
    rw [List.append_nil] at htoken
    cases rest with
    | nil => simp [tokensAfter?, htoken]
    | cons c rest =>
      have hc : endsWord c = true := hrest c rfl
      cases hread : read c .nothing with
      | none => simp [tokensAfter?, read_word hc htoken, hread]
      | some next =>
        simp [tokensAfter?, read_word hc htoken, hread, Option.map_map, Function.comp_def]
  | cons c w ih =>
    obtain ⟨hc, hw⟩ := List.forall_mem_cons.1 hw
    have hread : read c (.word before.reverse) = some ([], .word (before ++ [c]).reverse) := by
      simp [read, hc]
    rw [List.cons_append, tokensAfter?_cons_nil hread]
    exact ih hw (by simpa using htoken)

/-- A word is read as the token that it is. -/
lemma lexes_word (hne : w ≠ []) (hw : w.any endsWord = false)
    (htoken : wordToken? w = some token) : Lexes w [token] := by
  simp only [List.any_eq_false, Bool.not_eq_true] at hw
  intro rest hrest
  cases w with
  | nil => exact absurd rfl hne
  | cons c w =>
    obtain ⟨hc, hw⟩ := List.forall_mem_cons.1 hw
    have hread : read c .nothing = some ([], .word [c].reverse) := by
      have hparts : (isSpace c = false ∧ punctuation? c = none) ∧ c ≠ '"' := by
        simpa [endsWord] using hc
      simp [read, between, hparts]
    rw [List.cons_append, tokensAfter?_cons_nil hread]
    exact tokensAfter?_word hw htoken hrest

/-- A digit does not end a word. -/
lemma endsWord_of_isDigit (h : c.isDigit = true) : endsWord c = false := by
  have hne (d : Char) (hd : d.isDigit = false) : c ≠ d := by
    rintro rfl
    cases hd.symm.trans h
  simp [endsWord, isSpace, punctuation?, hne ' ' rfl, hne '\n' rfl, hne '\r' rfl, hne '\t' rfl,
    hne '[' rfl, hne ']' rfl, hne '{' rfl, hne '}' rfl, hne ':' rfl, hne ',' rfl, hne '"' rfl]

/-- The piece that is read for a character of a string. -/
def pieceOf (c : Char) : Piece :=
  if c.toNat < 0x20 ∧ ¬ c.toNat ∈ [8, 9, 10, 12, 13] then .unit c.toNat else .char c

/-- The ways to write a character within a string, each with the piece that it is read as. -/
inductive Spelled (c : Char) : List Char → Piece → Prop
  | plain (hquote : c ≠ '"') (hbackslash : c ≠ '\\') (hprinted : ¬ c.toNat < 0x20) :
    Spelled c [c] (.char c)
  | letter {l : Char} (hu : l ≠ 'u') (hprinted : ¬ l.toNat < 0x20) (h : escaped? l = some c) :
    Spelled c ['\\', l] (.char c)
  | unit (h : c.toNat < 0x20) :
    Spelled c ['\\', 'u', '0', '0', hexDigit (c.toNat / 16), hexDigit (c.toNat % 16)] (.unit c.toNat)

/-- A character is the one of its code point. -/
lemma eq_ofNat {n : Nat} (h : c.toNat = n) : c = Char.ofNat n := by
  rw [← h, Char.ofNat_toNat]

/-- The way in which a character is written in a string spells the piece that it is read as. -/
lemma spelled_escapeChar (c : Char) : Spelled c (escapeChar c) (pieceOf c) := by
  unfold escapeChar
  split
  case isTrue h =>
    subst h
    exact .letter (by decide) (by decide) rfl
  case isFalse hquote =>
  split
  case isTrue h =>
    subst h
    exact .letter (by decide) (by decide) rfl
  case isFalse hbackslash =>
  split
  case isTrue h =>
    rw [eq_ofNat h]
    exact .letter (by decide) (by decide) rfl
  case isFalse hbackspace =>
  split
  case isTrue h =>
    rw [eq_ofNat h]
    exact .letter (by decide) (by decide) rfl
  case isFalse hformFeed =>
  split
  case isTrue h =>
    subst h
    exact .letter (by decide) (by decide) rfl
  case isFalse hlineFeed =>
  split
  case isTrue h =>
    subst h
    exact .letter (by decide) (by decide) rfl
  case isFalse hreturn =>
  split
  case isTrue h =>
    subst h
    exact .letter (by decide) (by decide) rfl
  case isFalse htab =>
  split
  case isTrue hcontrol =>
    have hne (n : Nat) (h : c ≠ Char.ofNat n) : c.toNat ≠ n := fun heq => h (eq_ofNat heq)
    have hpiece : pieceOf c = .unit c.toNat :=
      if_pos ⟨hcontrol, by
        simp [hbackspace, hformFeed, hne 9 htab, hne 10 hlineFeed, hne 13 hreturn]⟩
    exact hpiece ▸ .unit hcontrol
  case isFalse hprinted =>
    have hpiece : pieceOf c = .char c := if_neg fun h => hprinted h.1
    exact hpiece ▸ .plain hquote hbackslash hprinted

/-- A hexadecimal digit is read as the number that it is written for. -/
lemma hexValue?_hexDigit : ∀ n < 16, hexValue? (hexDigit n) = some n := by
  decide

/-- What is written for a character within a string is read as its piece. -/
lemma tokensAfter?_spelled {piece : Piece} (h : Spelled c cs piece) (pieces : List Piece)
    (rest : List Char) :
    tokensAfter? (.string pieces) (cs ++ rest) = tokensAfter? (.string (piece :: pieces)) rest := by
  have hbackslash : read '\\' (.string pieces) = some ([], .escape pieces) := rfl
  cases h with
  | plain hquote hne hprinted =>
    have hread : read c (.string pieces) = some ([], .string (.char c :: pieces)) := by
      simp [read, hquote, hne, hprinted]
    exact tokensAfter?_cons_nil hread
  | @letter l hu hprinted h =>
    have hletter : read l (.escape pieces) = some ([], .string (.char c :: pieces)) := by
      simp [read, hu, h]
    exact (tokensAfter?_cons_nil hbackslash).trans (tokensAfter?_cons_nil hletter)
  | unit h =>
    have hu : read 'u' (.escape pieces) = some ([], .unit pieces 0 4) := rfl
    have hzero : read '0' (.unit pieces 0 4) = some ([], .unit pieces 0 3) := rfl
    have hzero' : read '0' (.unit pieces 0 3) = some ([], .unit pieces 0 2) := rfl
    have hhigh : read (hexDigit (c.toNat / 16)) (.unit pieces 0 2) =
        some ([], .unit pieces (c.toNat / 16) 1) := by
      simp [read, hexValue?_hexDigit (c.toNat / 16) (by omega)]
    have hlow : read (hexDigit (c.toNat % 16)) (.unit pieces (c.toNat / 16) 1) =
        some ([], .string (.unit c.toNat :: pieces)) := by
      simp [read, hexValue?_hexDigit (c.toNat % 16) (by omega), Nat.div_add_mod']
    simp only [List.cons_append, List.nil_append]
    rw [tokensAfter?_cons_nil hbackslash, tokensAfter?_cons_nil hu, tokensAfter?_cons_nil hzero,
      tokensAfter?_cons_nil hzero', tokensAfter?_cons_nil hhigh, tokensAfter?_cons_nil hlow]

/-- A written string is read as the pieces of its characters. -/
lemma tokensAfter?_string (text : List Char) (pieces : List Piece) :
    tokensAfter? (.string pieces) (text.flatMap escapeChar ++ ['"'] ++ rest) =
      (tokensAfter? .nothing rest).map
        fun later => .string (pieces.reverse ++ text.map pieceOf) :: later := by
  induction text generalizing pieces with
  | nil =>
    have hread : read '"' (.string pieces) = some ([.string pieces.reverse], .nothing) := rfl
    have hended : tokensAfter? (.string pieces) ('"' :: rest) =
        (tokensAfter? .nothing rest).map fun later => [.string pieces.reverse] ++ later :=
      tokensAfter?_cons hread
    simpa using hended
  | cons c text ih =>
    rw [List.flatMap_cons, List.append_assoc, List.append_assoc,
      tokensAfter?_spelled (spelled_escapeChar c), ← List.append_assoc, ih]
    simp

/-- What is written for a string is read as the pieces of its characters. -/
lemma lexes_quote (text : String) : Lexes (quote text) [.string (text.toList.map pieceOf)] := by
  intro rest _
  have hread : read '"' .nothing = some ([], .string []) := rfl
  rw [quote, List.cons_append, tokensAfter?_cons_nil hread]
  exact tokensAfter?_string text.toList []

/-- The digits that characters are. -/
def digitValues (cs : List Char) : List Nat := cs.map fun c => c.toNat - '0'.toNat

namespace Numeral

/-- Digits are read to their end. -/
lemma digits_of_isDigit (h : ∀ c ∈ cs, c.isDigit = true) : digits cs = (digitValues cs, []) := by
  induction cs with
  | nil => rfl
  | cons c cs ih =>
    obtain ⟨hc, hcs⟩ := List.forall_mem_cons.1 h
    simp [digits, digit?, hc, ih hcs, digitValues]

/-- No zero stands in front of the other digits that are written for a number. -/
lemma whole?_toDigits (n : Nat) :
    whole? (Nat.toDigits 10 n) = some (digitValues (Nat.toDigits 10 n), []) := by
  have hnumeral := numeral_toDigits n
  have hdigits := digits_of_isDigit hnumeral.isDigit
  unfold whole?
  rw [hdigits]
  cases hcs : Nat.toDigits 10 n with
  | nil => exact absurd hcs hnumeral.ne_nil
  | cons c cs =>
    by_cases hzero : c.toNat - '0'.toNat = 0
    · have hdigit := Char.isDigit_iff_toNat.1 (hnumeral.isDigit c (hcs ▸ List.mem_cons_self))
      have hc : c = '0' := eq_ofNat (Nat.le_antisymm (Nat.sub_eq_zero_iff_le.1 hzero) hdigit.1)
      subst hc
      rw [eq_nil_of_toDigits_eq_zero_cons hcs]
      rfl
    · rw [digitValues, List.map_cons]
      split
      case h_4 h => rw [h]
      all_goals simp_all

/-- The numeral that is written for an integer. -/
def ofInt (n : Int) : Numeral :=
  ⟨decide (n < 0), digitValues (Nat.toDigits 10 n.natAbs), none, none⟩

/-- The text of an integer is read as the integer's numeral. -/
lemma ofChars?_integerText (n : Int) : ofChars? (integerText n).toList = some (ofInt n) := by
  have hwhole := whole?_toDigits n.natAbs
  rw [toList_integerText]
  by_cases hneg : n < 0
  · rw [if_pos hneg]
    simp [ofChars?, hwhole, fraction?, exponent?, ofInt, hneg]
  · -- without it the match on a sign is not decided
    have hminus (body : List Char) : Nat.toDigits 10 n.natAbs ≠ '-' :: body := by
      intro heq
      exact absurd (heq ▸ numeral_toDigits n.natAbs) (RecordAccess.Numeral.not_cons rfl)
    rw [if_neg hneg, List.nil_append]
    simp [ofChars?, hwhole, fraction?, exponent?, ofInt, hneg]

end Numeral

/-- The text of an integer is the token of a number. -/
lemma wordToken?_integerText (n : Int) :
    wordToken? (integerText n).toList = some (.number (.ofInt n)) := by
  have hne (c : Char) (word : List Char) (hmem : c ∈ word) (hc : ¬ (c = '-' ∨ c.isDigit = true)) :
      (integerText n).toList ≠ word := by
    rintro rfl
    exact hc (eq_minus_or_isDigit_of_mem_integerText hmem)
  unfold wordToken?
  rw [if_neg (hne 'n' _ (by decide) (by decide)), if_neg (hne 't' _ (by decide) (by decide)),
    if_neg (hne 'f' _ (by decide) (by decide)), Numeral.ofChars?_integerText, Option.map_some]

/-- What is written for an integer is read as its numeral. -/
lemma lexes_integerText (n : Int) : Lexes (integerText n).toList [.number (.ofInt n)] := by
  refine lexes_word (integerText_ne_nil n) ?_ (wordToken?_integerText n)
  simp only [List.any_eq_false, Bool.not_eq_true]
  intro c hc
  cases eq_minus_or_isDigit_of_mem_integerText hc with
  | inl hminus => exact hminus ▸ rfl
  | inr hdigit => exact endsWord_of_isDigit hdigit

end RecordAccess.Json
