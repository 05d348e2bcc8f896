import Mathlib.Tactic.Common
import RecordAccess.Backend

/-!
# Tokens of SQL

The lexical rules of the two backends, for the part of SQL that statements are made of: words,
numbers, marks, quoted names and quoted literals. A quote that stands twice within a quoted text
stands for itself. A text with anything else outside quotes, with an open quote or with a NUL
character has no tokens.

The lexer goes over a text character by character and knows at each place what it is reading
(`Mode`). It puts a token out when the next character cannot belong to it, so that a text can be
taken apart only where the token before is known to be over. The main results say where that is:

* `tokens_append`: a text is read part by part where the first part ends or the second begins with a
  delimiter, which is a blank or one of the marks that stand alone.
* `tokens_quoteName`, `tokens_quoteLiteral`: a quoted text of any content is one token, and its
  content is the text without NUL characters.
-/

namespace RecordAccess.Sql

/-- A token. Of a quoted name or literal it holds the content. -/
inductive Token where
  | word (text : String)
  | number (value : Nat)
  | mark (text : String)
  | name (content : String)
  | literal (content : String)
  deriving DecidableEq

/-- What a lexer is reading, with the characters read of it. -/
inductive Mode where
  | between
  | word (read : List Char)
  | operator (read : List Char)
  | name (read : List Char)
  /-- after a quote in a name, which ends the name unless a second one follows -/
  | nameQuote (read : List Char)
  | literal (read : List Char)
  /-- after a quote in a literal, which ends the literal unless a second one follows -/
  | literalQuote (read : List Char)
  deriving DecidableEq

/-- Whether a character parts tokens and belongs to none. -/
def isBlank (c : Char) : Bool := c = ' ' || c = '\t' || c = '\n' || c = '\r'

/-- Whether a character is a token wherever it stands outside quotes. -/
def isMark (c : Char) : Bool := c = '(' || c = ')' || c = '.' || c = ',' || c = '*'

/-- Whether a character can be part of an operator. -/
def isOperator (c : Char) : Bool := c = '=' || c = '!' || c = '<' || c = '>'

/-- Whether a character can be part of a word or a number. -/
def isWord (c : Char) : Bool := c.isAlphanum || c = '_'

/-- Whether a character outside quotes ends the token before it and starts none that goes on. -/
def isDelimiter (c : Char) : Bool := isBlank c || isMark c

/-- The quote before a name. -/
def nameOpening : Backend → Char
  | .sqlite => Backend.graveAccent
  | .sqlServer => '['

/-- The quote after a name. -/
def nameClosing : Backend → Char
  | .sqlite => Backend.graveAccent
  | .sqlServer => ']'

/-- The token of a word or number. A word does not start with a digit. -/
def wordToken? (read : List Char) : Option Token :=
  if read.all Char.isDigit then some (.number (Nat.ofDigitChars 10 read 0))
  else if read.head?.any Char.isDigit then none
  else some (.word (String.ofList read))

/-- The token of an operator. -/
def operatorToken? (read : List Char) : Option Token :=
  let text := String.ofList read
  if text ∈ ["=", "!=", "<", "<=", ">", ">="] then some (.mark text) else none

/-- The token that has been read when the text ends, if the text may end there. -/
def Mode.finish : Mode → Option (List Token)
  | between => some []
  | word read => (wordToken? read).map fun t => [t]
  | operator read => (operatorToken? read).map fun t => [t]
  | name _ => none
  | nameQuote read => some [.name (String.ofList read)]
  | literal _ => none
  | literalQuote read => some [.literal (String.ofList read)]

/-- What a character between tokens is or starts. -/
def start (backend : Backend) (c : Char) : Option (List Token × Mode) :=
  if isBlank c then some ([], .between)
  else if isMark c then some ([.mark (String.ofList [c])], .between)
  else if isOperator c then some ([], .operator [c])
  else if c = nameOpening backend then some ([], .name [])
  else if c = '\'' ∧ backend = .sqlite then some ([], .literal [])
  else if isWord c then some ([], .word [c])
  else none

/-- What a character is or starts that ends the token before it. -/
def restart (backend : Backend) (mode : Mode) (c : Char) : Option (List Token × Mode) :=
  mode.finish.bind fun before => (start backend c).map fun (after, mode) => (before ++ after, mode)

/-- The tokens that a character completes, and what is being read after it. On SQL Server the word
`N` before a quote belongs to a literal. -/
def step (backend : Backend) (mode : Mode) (c : Char) : Option (List Token × Mode) :=
  if c.toNat = 0 then none
  else
    match mode with
    | .between => start backend c
    | .word read =>
      if isWord c then some ([], .word (read ++ [c]))
      else if c = '\'' then
        if backend = .sqlServer ∧ read = ['N'] then some ([], .literal []) else none
      else restart backend mode c
    | .operator read =>
      if isOperator c then some ([], .operator (read ++ [c])) else restart backend mode c
    | .name read =>
      some ([], if c = nameClosing backend then .nameQuote read else .name (read ++ [c]))
    | .nameQuote read =>
      if c = nameClosing backend then some ([], .name (read ++ [c])) else restart backend mode c
    | .literal read =>
      some ([], if c = '\'' then .literalQuote read else .literal (read ++ [c]))
    | .literalQuote read =>
      if c = '\'' then some ([], .literal (read ++ [c])) else restart backend mode c

/-- The tokens that some characters complete, and what is being read after them. -/
def scan (backend : Backend) : Mode → List Char → Option (List Token × Mode)
  | mode, [] => some ([], mode)
  | mode, c :: rest =>
    (step backend mode c).bind fun (before, mode) =>
      (scan backend mode rest).map fun (after, mode) => (before ++ after, mode)

/-- The tokens of a text, if it is one of whole tokens. -/
def tokens (backend : Backend) (text : String) : Option (List Token) :=
  (scan backend .between text.toList).bind fun (before, mode) =>
    mode.finish.map fun last => before ++ last

/-- The tokens that a delimiter is. -/
def delimiterTokens (c : Char) : List Token := if isBlank c then [] else [.mark (String.ofList [c])]

/-- A delimiter is one of nine characters. -/
lemma isDelimiter_iff {c : Char} :
    isDelimiter c ↔ c ∈ [' ', '\t', '\n', '\r', '(', ')', '.', ',', '*'] := by
  simp [isDelimiter, isBlank, isMark, or_assoc]

/-- Between tokens, a delimiter is read on its own. -/
lemma start_of_isDelimiter {b : Backend} {c : Char} (hc : isDelimiter c) :
    start b c = some (delimiterTokens c, .between) := by
  by_cases hb : isBlank c
  · simp [start, delimiterTokens, hb]
  · have hm : isMark c := by simpa [isDelimiter, hb] using hc
    simp [start, delimiterTokens, hb, hm]

/-- A delimiter belongs to no other token. -/
lemma ne_of_isDelimiter (b : Backend) {c : Char} (hc : isDelimiter c) :
    c.toNat ≠ 0 ∧ isWord c = false ∧ isOperator c = false ∧ c ≠ '\'' ∧ c ≠ nameClosing b := by
  have h := isDelimiter_iff.1 hc
  simp only [List.mem_cons, List.not_mem_nil, or_false] at h
  rcases h with h | h | h | h | h | h | h | h | h <;> subst h <;> cases b <;> decide

/-- A delimiter ends the token before it where the text could end as well. -/
lemma step_of_finish {b : Backend} {m : Mode} {ts : List Token} {c : Char}
    (hm : m.finish = some ts) (hc : isDelimiter c) :
    step b m c = some (ts ++ delimiterTokens c, .between) := by
  obtain ⟨h0, hw, ho, hq, hn⟩ := ne_of_isDelimiter b hc
  have hr : restart b m c = some (ts ++ delimiterTokens c, .between) := by
    simp [restart, hm, start_of_isDelimiter hc]
  cases m with
  | between =>
    obtain rfl : [] = ts := by simpa [Mode.finish] using hm
    simpa [step, h0] using start_of_isDelimiter hc
  | word read => simpa [step, h0, hw, hq] using hr
  | operator read => simpa [step, h0, ho] using hr
  | name read => simp [Mode.finish] at hm
  | nameQuote read => simpa [step, h0, hn] using hr
  | literal read => simp [Mode.finish] at hm
  | literalQuote read => simpa [step, h0, hq] using hr

/-- After a delimiter a text can end between tokens only. -/
lemma eq_between_of_step {b : Backend} {m m' : Mode} {ts us : List Token} {c : Char}
    (hs : step b m c = some (ts, m')) (hm : m'.finish = some us) (hc : isDelimiter c) :
    m' = .between := by
  obtain ⟨h0, hw, ho, hq, hn⟩ := ne_of_isDelimiter b hc
  have hr : restart b m c = some (ts, m') → m' = .between := by
    intro h
    obtain ⟨before, -, h⟩ := Option.bind_eq_some_iff.1 h
    rw [start_of_isDelimiter hc] at h
    simp only [Option.map_some, Option.some.injEq, Prod.mk.injEq] at h
    exact h.2.symm
  cases m with
  | between =>
    have h : start b c = some (ts, m') := by simpa [step, h0] using hs
    rw [start_of_isDelimiter hc, Option.some.injEq, Prod.mk.injEq] at h
    exact h.2.symm
  | word read => exact hr (by simpa [step, h0, hw, hq] using hs)
  | operator read => exact hr (by simpa [step, h0, ho] using hs)
  | nameQuote read => exact hr (by simpa [step, h0, hn] using hs)
  | literalQuote read => exact hr (by simpa [step, h0, hq] using hs)
  | name read =>
    obtain ⟨-, rfl⟩ : [] = ts ∧ Mode.name (read ++ [c]) = m' := by simpa [step, h0, hn] using hs
    simp [Mode.finish] at hm
  | literal read =>
    obtain ⟨-, rfl⟩ : [] = ts ∧ Mode.literal (read ++ [c]) = m' := by
      simpa [step, h0, hq] using hs
    simp [Mode.finish] at hm

/-- Whether a text begins with a delimiter. -/
def startsDelimited (text : String) : Bool := text.toList.head?.any isDelimiter

/-- Whether a text ends with a delimiter. -/
def endsDelimited (text : String) : Bool := text.toList.getLast?.any isDelimiter

/-- To scan two texts in a row is to scan the second in the mode that the first ends in. -/
lemma scan_append (b : Backend) (m : Mode) (x y : List Char) :
    scan b m (x ++ y) = (scan b m x).bind fun (ts, m') =>
      (scan b m' y).map fun (us, m'') => (ts ++ us, m'') := by
  induction x generalizing m with
  | nil => simp [scan]
  | cons c x ih =>
    cases hs : step b m c with
    | none => simp [scan, hs]
    | some r =>
      obtain ⟨ts, m'⟩ := r
      cases hx : scan b m' x with
      | none => simp [scan, hs, ih, hx]
      | some r => simp [scan, hs, ih, hx, Function.comp_def]

/-- The tokens of a text are those completed on the way and those that the end completes. -/
lemma tokens_eq_some_iff {b : Backend} {x : String} {ts : List Token} :
    tokens b x = some ts ↔ ∃ before m last,
      scan b .between x.toList = some (before, m) ∧ m.finish = some last ∧
        ts = before ++ last := by
  constructor
  · intro h
    obtain ⟨⟨before, m⟩, hs, h⟩ := Option.bind_eq_some_iff.1 h
    obtain ⟨last, hm, rfl⟩ := Option.map_eq_some_iff.1 h
    exact ⟨before, m, last, hs, hm, rfl⟩
  · rintro ⟨before, m, last, hs, hm, rfl⟩
    simp [tokens, hs, hm]

/-- Where a delimiter stands, what follows is read as if nothing stood before it. -/
lemma tokens_append_of_startsDelimited {b : Backend} {x y : String} {ts us : List Token}
    (hx : tokens b x = some ts) (hy : tokens b y = some us) (h : startsDelimited y) :
    tokens b (x ++ y) = some (ts ++ us) := by
  obtain ⟨before, m, last, hs, hm, rfl⟩ := tokens_eq_some_iff.1 hx
  obtain ⟨before', m', last', hs', hm', rfl⟩ := tokens_eq_some_iff.1 hy
  obtain ⟨c, rest, hc, hl⟩ : ∃ c rest, isDelimiter c ∧ y.toList = c :: rest := by
    cases hl : y.toList with
    | nil => simp [startsDelimited, hl] at h
    | cons c rest => exact ⟨c, rest, by simpa [startsDelimited, hl] using h, rfl⟩
  -- both readings are in the same mode after the delimiter, and the first has put out its token
  have hstart : step b .between c = some (delimiterTokens c, .between) := by
    simpa using step_of_finish (m := .between) rfl hc
  rw [hl, scan, hstart] at hs'
  obtain ⟨⟨rest_ts, m''⟩, hrest, he⟩ := Option.map_eq_some_iff.1 hs'
  obtain ⟨rfl, rfl⟩ := Prod.mk.inj he
  refine tokens_eq_some_iff.2
    ⟨before ++ (last ++ delimiterTokens c ++ rest_ts), m'', last', ?_, hm', by simp⟩
  rw [String.toList_append, scan_append, hs, hl]
  simp [scan, step_of_finish hm hc, hrest]

/-- After a delimiter, a text is read as if nothing stood before it. -/
lemma tokens_append_of_endsDelimited {b : Backend} {x y : String} {ts us : List Token}
    (hx : tokens b x = some ts) (hy : tokens b y = some us) (h : endsDelimited x) :
    tokens b (x ++ y) = some (ts ++ us) := by
  obtain ⟨before, m, last, hs, hm, rfl⟩ := tokens_eq_some_iff.1 hx
  obtain ⟨before', m', last', hs', hm', rfl⟩ := tokens_eq_some_iff.1 hy
  obtain ⟨c, hl, hc⟩ := (Option.any_eq_true _ _).1 h
  obtain ⟨init, hx⟩ := List.getLast?_eq_some_iff.1 hl
  obtain rfl : m = .between := by
    rw [hx, scan_append] at hs
    obtain ⟨⟨ts, m₀⟩, -, he⟩ := Option.bind_eq_some_iff.1 hs
    obtain ⟨⟨us, m₁⟩, h₁, he⟩ := Option.map_eq_some_iff.1 he
    obtain ⟨-, rfl⟩ := Prod.mk.inj he
    obtain ⟨⟨vs, m₂⟩, hstep, he⟩ := Option.bind_eq_some_iff.1 h₁
    obtain ⟨-, rfl⟩ : vs = us ∧ m₂ = m₁ := by simpa [scan] using he
    exact eq_between_of_step hstep hm hc
  obtain rfl : [] = last := by simpa [Mode.finish] using hm
  refine tokens_eq_some_iff.2 ⟨before ++ before', m', last', ?_, hm', by simp⟩
  rw [String.toList_append, scan_append, hs]
  simp [hs']

/-- A text is read part by part where a delimiter stands at the seam. -/
theorem tokens_append {b : Backend} {x y : String} {ts us : List Token}
    (hx : tokens b x = some ts) (hy : tokens b y = some us)
    (h : endsDelimited x ∨ startsDelimited y) : tokens b (x ++ y) = some (ts ++ us) := by
  cases h with
  | inl h => exact tokens_append_of_endsDelimited hx hy h
  | inr h => exact tokens_append_of_startsDelimited hx hy h

/-- A text that begins with a delimiter still does so with more behind it. -/
lemma startsDelimited_append {x y : String} (h : startsDelimited x) :
    startsDelimited (x ++ y) := by
  cases hx : x.toList with
  | nil => simp [startsDelimited, hx] at h
  | cons c rest => simpa [startsDelimited, hx] using h

/-- A text that ends with a delimiter still does so with more before it. -/
lemma endsDelimited_append {x y : String} (h : endsDelimited y) : endsDelimited (x ++ y) := by
  obtain ⟨c, hl, hc⟩ := (Option.any_eq_true _ _).1 h
  simp [endsDelimited, List.getLast?_append, hl, hc]

/-- A text as it stands between quotes: without NUL characters. -/
def printed (text : String) : String := String.ofList (text.toList.filter fun c => c ≠ '\x00')

/-- The token of a quoted name. -/
def Token.ofName (name : String) : Token := .name (printed name)

/-- The token of a quoted text. -/
def Token.ofText (text : String) : Token := .literal (printed text)

/-- The characters that are printed are those that are not NUL. -/
lemma ofList_printable (text : String) :
    String.ofList (Backend.printable text.toList) = printed text := by
  have hzero (c : Char) : (c.toNat != 0) = decide (c ≠ '\x00') := by
    rw [Bool.eq_iff_iff, bne_iff_ne, decide_eq_true_iff, not_iff_not]
    exact Char.toNat_inj (d := '\x00')
  rw [Backend.printable, printed, funext hzero]

/-- A quote that encloses texts: within one it leads to a mode of its own, and back if it stands there
once more. -/
structure Encloses (b : Backend) (quote : Char) (inside quoted : List Char → Mode) : Prop where
  ne_zero : quote.toNat ≠ 0
  step_inside : ∀ read c, c.toNat ≠ 0 →
    step b (inside read) c = some ([], if c = quote then quoted read else inside (read ++ [c]))
  step_quoted : ∀ read, step b (quoted read) quote = some ([], inside (read ++ [quote]))

/-- The quote behind a name encloses it. -/
lemma encloses_name (b : Backend) : Encloses b (nameClosing b) .name .nameQuote := by
  have h0 : (nameClosing b).toNat ≠ 0 := by cases b <;> decide
  refine ⟨h0, ?_, ?_⟩
  · intro read c hc
    simp [step, hc]
  · intro read
    simp [step, h0]

/-- The quote of literals encloses them on both backends. -/
lemma encloses_literal (b : Backend) : Encloses b '\'' .literal .literalQuote := by
  refine ⟨by decide, ?_, ?_⟩
  · intro read c hc
    simp [step, hc]
  · intro read
    simp [step]

/-- The quotes of a text are read as they were before they were doubled. -/
lemma Encloses.scan_doubled {b : Backend} {quote : Char} {inside quoted : List Char → Mode}
    (hquote : Encloses b quote inside quoted) (read : List Char) {cs : List Char}
    (h : ∀ c ∈ cs, c.toNat ≠ 0) :
    scan b (inside read) (doubled quote cs) = some ([], inside (read ++ cs)) := by
  induction cs generalizing read with
  | nil => simp [doubled, scan]
  | cons c cs ih =>
    obtain ⟨h0, hrest⟩ := List.forall_mem_cons.1 h
    have hstep := hquote.step_inside read c h0
    by_cases hc : c = quote
    · subst hc
      simp [doubled, scan, hstep, hquote.step_quoted, ih _ hrest]
    · simp [doubled, hc, scan, hstep, ih _ hrest]

/-- What is printed has no NUL characters in it. -/
lemma ne_zero_of_mem_printable {cs : List Char} : ∀ c ∈ Backend.printable cs, c.toNat ≠ 0 := by
  intro c hc
  simpa using (List.mem_filter.1 hc).2

/-- A text is read up to the quote after it. -/
lemma Encloses.scan_quoted {b : Backend} {quote : Char} {inside quoted : List Char → Mode}
    (hquote : Encloses b quote inside quoted) (cs : List Char) :
    scan b (inside []) (doubled quote (Backend.printable cs) ++ [quote]) =
      some ([], quoted (Backend.printable cs)) := by
  have hclose := hquote.step_inside (Backend.printable cs) quote hquote.ne_zero
  simp [scan_append, hquote.scan_doubled [] ne_zero_of_mem_printable, scan, hclose]

/-- A quoted name is one token. -/
theorem tokens_quoteName (b : Backend) (name : String) :
    tokens b (b.quoteName name) = some [.ofName name] := by
  have hq : (b.quoteName name).toList = nameOpening b ::
      (doubled (nameClosing b) (Backend.printable name.toList) ++ [nameClosing b]) := by
    cases b <;> simp [Backend.quoteName, Backend.enclose, nameOpening, nameClosing]
  have hopen : step b .between (nameOpening b) = some ([], .name []) := by cases b <;> rfl
  have hs : scan b .between (b.quoteName name).toList =
      some ([], .nameQuote (Backend.printable name.toList)) := by
    simp [hq, scan, hopen, (encloses_name b).scan_quoted]
  refine tokens_eq_some_iff.2 ⟨[], _, [.ofName name], hs, ?_, rfl⟩
  rw [Token.ofName, ← ofList_printable]
  rfl

/-- A quoted text is one token. -/
theorem tokens_quoteLiteral (b : Backend) (text : String) :
    tokens b (b.quoteLiteral text) = some [.ofText text] := by
  have hbody := (encloses_literal b).scan_quoted text.toList
  have hs : scan b .between (b.quoteLiteral text).toList =
      some ([], .literalQuote (Backend.printable text.toList)) := by
    cases b with
    | sqlite =>
      have hopen : step .sqlite .between '\'' = some ([], .literal []) := rfl
      simp [Backend.quoteLiteral, Backend.enclose, scan, hopen, hbody]
    | sqlServer =>
      -- the letter in front is a word until its quote is met
      have hword : step .sqlServer .between 'N' = some ([], .word ['N']) := rfl
      have hopen : step .sqlServer (.word ['N']) '\'' = some ([], .literal []) := rfl
      simp [Backend.quoteLiteral, Backend.enclose, scan, hword, hopen, hbody]
  refine tokens_eq_some_iff.2 ⟨[], _, [.ofText text], hs, ?_, rfl⟩
  rw [Token.ofText, ← ofList_printable]
  rfl

/-- Between tokens a digit starts a word, and within one it goes on with it. -/
lemma step_of_isDigit (b : Backend) {c : Char} (hc : c.isDigit) :
    step b .between c = some ([], .word [c]) ∧
      ∀ read, step b (.word read) c = some ([], .word (read ++ [c])) := by
  have hne (d : Char) (hd : d.isDigit = false) : c ≠ d := by
    rintro rfl
    simp [hc] at hd
  have h0 : c.toNat ≠ 0 := by
    intro h
    exact hne (Char.ofNat 0) rfl (by rw [← h, Char.ofNat_toNat])
  have hw : isWord c := by simp [isWord, Char.isAlphanum, hc]
  have ho : c ≠ nameOpening b := hne _ (by cases b <;> rfl)
  refine ⟨?_, fun read => by simp [step, h0, hw]⟩
  simp [step, start, isBlank, isMark, isOperator, h0, hw, ho, hne ' ' rfl, hne '\t' rfl,
    hne '\n' rfl, hne '\r' rfl, hne '(' rfl, hne ')' rfl, hne '.' rfl, hne ',' rfl, hne '*' rfl,
    hne '=' rfl, hne '!' rfl, hne '<' rfl, hne '>' rfl, hne '\'' rfl]

/-- Digits go on with the word or number that is read. -/
lemma scan_digits (b : Backend) (read cs : List Char) (h : ∀ c ∈ cs, c.isDigit) :
    scan b (.word read) cs = some ([], .word (read ++ cs)) := by
  induction cs generalizing read with
  | nil => simp [scan]
  | cons c cs ih =>
    have hrest : ∀ c ∈ cs, c.isDigit := fun d hd => h d (by simp [hd])
    simp [scan, (step_of_isDigit b (h c (by simp))).2, ih (read ++ [c]) hrest]

/-- A decimal number is one token. -/
theorem tokens_naturalText (b : Backend) (n : Nat) :
    tokens b (naturalText n) = some [.number n] := by
  have hdigit : ∀ c ∈ Nat.toDigits 10 n, c.isDigit := fun c hc =>
    Nat.isDigit_of_mem_toDigits (by decide) (by decide) hc
  have hs : scan b .between (Nat.toDigits 10 n) = some ([], .word (Nat.toDigits 10 n)) := by
    cases hl : Nat.toDigits 10 n with
    | nil => exact absurd hl Nat.toDigits_ne_nil
    | cons c cs =>
      rw [hl] at hdigit
      have hrest : ∀ c ∈ cs, c.isDigit := fun d hd => hdigit d (by simp [hd])
      simp [scan, (step_of_isDigit b (hdigit c (by simp))).1, scan_digits b [c] cs hrest]
  refine tokens_eq_some_iff.2 ⟨[], _, [.number n], by simpa [naturalText] using hs, ?_, rfl⟩
  have hall : (Nat.toDigits 10 n).all Char.isDigit := List.all_eq_true.2 hdigit
  simp [Mode.finish, wordToken?, hall, Nat.ofDigitChars_toDigits]

end RecordAccess.Sql
