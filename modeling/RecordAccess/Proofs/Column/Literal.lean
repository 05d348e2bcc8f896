import Mathlib.Logic.Relation
import RecordAccess.Column.Default
import RecordAccess.Proofs.Number.Numeral
import RecordAccess.Proofs.Text.Blank
import RecordAccess.Proofs.Text.Parts

/-!
# Literals as default values

A default expression of text is a literal with blanks around it and, on SQL Server, in parentheses, each
of which encloses all up to the one that matches it (`Wrapped`, `Denotes`). Every text is something with
blanks and parentheses around it (`wrapped_bareText`), and if that is a literal, it is the one that is
looked at (`bareText_of_wrapped`), so that what was written is read back: `decoded_of_wrapped`.

A text between quotes is taken as a literal whatever quotes stand in it. `kept_literal_iff` says that this
goes wrong exactly where some of them are not doubled.
-/

namespace RecordAccess

variable {backend : Backend}

/-- A text with blanks around it and, on SQL Server, in parentheses, in any number and order. -/
inductive Wrapped (backend : Backend) (core : List Char) : List Char → Prop where
  | core :
    Wrapped backend core core
  | blanks {l text r} :
    Blank l →
    Blank r →
    Wrapped backend core text →
    Wrapped backend core (l ++ text ++ r)
  | parentheses {text} :
    backend = .sqlServer →
    Wrapped backend core text →
    Wrapped backend core ('(' :: (text ++ [')']))

/-- A default expression without the blanks and the parentheses around it. -/
def bareText (backend : Backend) (raw : List Char) : List Char :=
  match backend with
  | .sqlServer => unwrapped (trimChars raw)
  | .sqlite => trimChars raw

/-- One round of leaving out parentheses. -/
def Peels (text next : List Char) : Prop :=
  ∃ inner, text = '(' :: (inner ++ [')']) ∧ next = trimChars inner

variable {core raw text : List Char}

/-- Of a text in parentheses remains what remains of the text within, without the blanks around it. -/
lemma unwrapped_of_parentheses (inner : List Char) :
    unwrapped ('(' :: (inner ++ [')'])) = unwrapped (trimChars inner) := by
  rw [unwrapped]
  split
  · next inner' h => rw [Option.some_inj.1 ((beforeEnding?_append [')'] inner).symm.trans h)]
  · next h => cases (beforeEnding?_append [')'] inner).symm.trans h

/-- A text that has no parentheses to leave out remains as it is. -/
lemma unwrapped_of_not_peels (h : ∀ next, ¬ Peels text next) : unwrapped text = text := by
  fun_induction unwrapped text with
  | case1 rest inner hinner _ =>
    exact absurd ⟨inner, by rw [eq_append_of_beforeEnding? hinner], rfl⟩ (h _)
  | case2 => rfl
  | case3 => rfl

/-- The rounds end, and what they end in has no parentheses around it. -/
lemma peels_unwrapped (text : List Char) :
    Relation.ReflTransGen Peels text (unwrapped text) ∧ ∀ next, ¬ Peels (unwrapped text) next := by
  fun_induction unwrapped text with
  | case1 rest inner hinner ih =>
    refine ⟨.head ⟨inner, ?_, rfl⟩ ih.1, ih.2⟩
    rw [eq_append_of_beforeEnding? hinner]
  | case2 rest hnone =>
    refine ⟨.refl, ?_⟩
    rintro next ⟨inner, heq, -⟩
    rw [(List.cons.inj heq).2, beforeEnding?_append] at hnone
    cases hnone
  | case3 text hother =>
    refine ⟨.refl, ?_⟩
    rintro next ⟨inner, heq, -⟩
    exact hother _ heq

/-- Every round leaves a shorter text. -/
lemma wellFounded_peels : WellFounded fun next text => Peels text next := by
  refine Subrelation.wf ?_ (measure List.length).wf
  rintro next text ⟨inner, rfl, rfl⟩
  have hle := length_trimChars_le inner
  show (trimChars inner).length < ('(' :: (inner ++ [')'])).length
  simp only [List.length_cons, List.length_append]
  omega

/-- A text is wrapped if it is so without the blanks around it. -/
lemma Wrapped.of_trimChars (h : Wrapped backend core (trimChars text)) :
    Wrapped backend core text := by
  obtain ⟨l, r, hl, hr, htext⟩ := exists_eq_append_trimChars text
  rw [htext]
  exact .blanks hl hr h

/-- On SQL Server a text is what remains of it, wrapped. -/
lemma wrapped_unwrapped (text : List Char) : Wrapped .sqlServer (unwrapped text) text := by
  fun_induction unwrapped text with
  | case1 rest inner hinner ih =>
    rw [eq_append_of_beforeEnding? hinner]
    exact .parentheses rfl ih.of_trimChars
  | case2 => exact .core
  | case3 => exact .core

/-- Every text is what it comes to, with blanks and parentheses around. -/
lemma wrapped_bareText (backend : Backend) (raw : List Char) :
    Wrapped backend (bareText backend raw) raw := by
  cases backend with
  | sqlServer => exact (wrapped_unwrapped _).of_trimChars
  | sqlite => exact Wrapped.core.of_trimChars

/-- A text without blanks and parentheses around it is found again. -/
lemma bareText_of_wrapped (hbare : Bare core) (hpeels : ∀ next, ¬ Peels core next)
    (h : Wrapped backend core raw) : bareText backend raw = core := by
  induction h with
  | core =>
    cases backend with
    | sqlServer => rw [bareText, hbare.trimChars_eq, unwrapped_of_not_peels hpeels]
    | sqlite => exact hbare.trimChars_eq
  | @blanks l text r hl hr _ ih =>
    rw [← ih]
    cases backend <;> simp only [bareText, trimChars_append hl hr]
  | @parentheses text hbackend _ ih =>
    subst hbackend
    have hparentheses : Bare ('(' :: (text ++ [')'])) := bare_between (by decide) (by decide) text
    rw [bareText, hparentheses.trimChars_eq, unwrapped_of_parentheses]
    exact ih

/-- A text between quotes, which may be marked as one of national characters. -/
inductive Quotes (content : List Char) : List Char → Prop where
  | plain : Quotes content ('\'' :: (content ++ ['\'']))
  | national : Quotes content ('N' :: '\'' :: (content ++ ['\'']))

variable {content content' : List Char} {s : String}

/-- Quoted texts are written out: the content between quotes, with or without the letter before. -/
lemma quotes_iff :
    Quotes content core ↔
      core = '\'' :: (content ++ ['\'']) ∨ core = 'N' :: '\'' :: (content ++ ['\'']) := by
  constructor
  · rintro (_ | _)
    · exact .inl rfl
    · exact .inr rfl
  · rintro (rfl | rfl)
    · exact .plain
    · exact .national

/-- A quoted text has no blanks around it. -/
lemma Quotes.bare (h : Quotes content core) : Bare core := by
  cases h with
  | plain => exact bare_between (by decide) (by decide) content
  | national => exact bare_between (by decide) (by decide) ('\'' :: content)

/-- A quoted text is not in parentheses, so that none are left out. -/
lemma Quotes.not_peels (h : Quotes content core) (next : List Char) : ¬ Peels core next := by
  rintro ⟨inner, heq, -⟩
  cases h <;> cases heq

/-- A quoted text has one content. -/
lemma Quotes.unique (h : Quotes content core) (h' : Quotes content' core) : content = content' := by
  cases h with
  | plain => simpa [quotes_iff] using h'
  | national => simpa [quotes_iff] using h'

/-- What follows one of two starts is quoted if the closing quote comes last. -/
lemma quotedContent?_eq_some_iff :
    quotedContent? core = some s ↔
      ∃ content, Quotes content core ∧ String.ofList (undoubled '\'' content) = s := by
  constructor
  · intro h
    obtain ⟨content, hcontent, rfl⟩ := Option.map_eq_some_iff.1 h
    obtain ⟨rest, hrest, hending⟩ := Option.bind_eq_some_iff.1 hcontent
    refine ⟨content, ?_, rfl⟩
    rw [eq_append_of_beforeEnding? hending] at hrest
    split at hrest
    · next hstart =>
      cases hrest
      rw [eq_append_of_afterStart? hstart]
      exact .national
    · rw [eq_append_of_afterStart? hrest]
      exact .plain
  · rintro ⟨content, hquotes, rfl⟩
    cases hquotes with
    | plain => simp [quotedContent?, afterStart?, beforeEnding?_append]
    | national => simp [quotedContent?, afterStart?, beforeEnding?_append]

/-- The types of text, with the values that a text has in them. -/
inductive HoldsText : LogicalType → (String → Value) → Prop where
  | text : HoldsText .text .text
  | dateTime : HoldsText .dateTime .dateTime

/-- A default expression comes to a text between quotes. -/
def Encloses (backend : Backend) (raw : String) (content : List Char) : Prop :=
  ∃ core, Quotes content core ∧ Wrapped backend core raw.toList

/-- A default expression is a literal of a text, with the quotes in the text doubled. -/
def Denotes (backend : Backend) (raw s : String) : Prop :=
  Encloses backend raw (doubled '\'' s.toList)

variable {raw : String} {type : LogicalType} {hold : String → Value}

/-- A default expression encloses the content that its bare text quotes. -/
lemma encloses_iff :
    Encloses backend raw content ↔ Quotes content (bareText backend raw.toList) := by
  constructor
  · rintro ⟨core, hquotes, hwrapped⟩
    rwa [bareText_of_wrapped hquotes.bare hquotes.not_peels hwrapped]
  · intro h
    exact ⟨_, h, wrapped_bareText backend raw.toList⟩

/-- For a type of text the default value is the quoted content of the bare text, if there is one. -/
lemma defaultValue?_of_holdsText (h : HoldsText type hold) :
    defaultValue? backend type raw = (quotedContent? (bareText backend raw.toList)).map hold := by
  cases h <;> cases backend <;> rfl

/-- A default value of text is the content of quotes, with doubled quotes made single. -/
lemma defaultValue?_eq_some_iff (h : HoldsText type hold) {v : Value} :
    defaultValue? backend type raw = some v ↔
      ∃ content, Encloses backend raw content ∧
        v = hold (String.ofList (undoubled '\'' content)) := by
  simp only [defaultValue?_of_holdsText h, Option.map_eq_some_iff, quotedContent?_eq_some_iff,
    encloses_iff]
  constructor
  · rintro ⟨s, ⟨content, hcontent, rfl⟩, rfl⟩
    exact ⟨content, hcontent, rfl⟩
  · rintro ⟨content, hcontent, rfl⟩
    exact ⟨_, ⟨content, hcontent, rfl⟩, rfl⟩

/-- The text of a literal is read from it. -/
lemma defaultValue?_of_denotes (h : HoldsText type hold) (hraw : Denotes backend raw s) :
    defaultValue? backend type raw = some (hold s) := by
  refine (defaultValue?_eq_some_iff h).2 ⟨_, hraw, ?_⟩
  rw [undoubled_doubled, String.ofList_toList]

/-- A default expression encloses one content. -/
lemma Encloses.unique (h : Encloses backend raw content) (h' : Encloses backend raw content') :
    content = content' := (encloses_iff.1 h).unique (encloses_iff.1 h')

/-- Whether every quote in a text is followed by its double. -/
def QuotesDoubled (content : List Char) : Prop := ∃ cs, content = doubled '\'' cs

/-- Quotes are doubled if single quotes doubled again give the content back. -/
lemma quotesDoubled_iff :
    QuotesDoubled content ↔ doubled '\'' (undoubled '\'' content) = content := by
  constructor
  · rintro ⟨cs, rfl⟩
    rw [undoubled_doubled]
  · intro h
    exact ⟨_, h.symm⟩

/-- A default value of text is the content of what is between quotes. The expressions that have one are
the literals, and the value is that of the literal, if and only if what is between quotes has its quotes
doubled. -/
theorem kept_literal_iff (backend : Backend) (raw : String) {type : LogicalType}
    {hold : String → Value} (h : HoldsText type hold) :
    (∀ v, defaultValue? backend type raw = some v ↔
      ∃ content, Encloses backend raw content ∧
        v = hold (String.ofList (undoubled '\'' content))) ∧
    ((∀ v, defaultValue? backend type raw = some v ↔ ∃ s, Denotes backend raw s ∧ v = hold s) ↔
      ∀ content, Encloses backend raw content → QuotesDoubled content) := by
  refine ⟨fun v => defaultValue?_eq_some_iff h, ?_⟩
  constructor
  · intro hliteral content hcontent
    have hvalue := (defaultValue?_eq_some_iff h).2 ⟨content, hcontent, rfl⟩
    obtain ⟨s, hs, -⟩ := (hliteral _).1 hvalue
    exact ⟨s.toList, hcontent.unique hs⟩
  · intro hdoubled v
    constructor
    · intro hvalue
      obtain ⟨content, hcontent, rfl⟩ := (defaultValue?_eq_some_iff h).1 hvalue
      obtain ⟨cs, rfl⟩ := hdoubled content hcontent
      refine ⟨String.ofList cs, ?_, by rw [undoubled_doubled]⟩
      rwa [Denotes, String.toList_ofList]
    · rintro ⟨s, hs, rfl⟩
      exact defaultValue?_of_denotes h hs

/-- A default of SQL Server, in parentheses with a blank between them. -/
def greeting : String := "( (N'it''s'))"

/-- The greeting encloses its text, with the quote in it doubled. -/
lemma encloses_greeting : Encloses .sqlServer greeting "it''s".toList :=
  ⟨_, .national, .parentheses rfl (.blanks (l := [' ']) (r := []) (by decide) blank_nil
    (.parentheses rfl .core))⟩

/-- The literal in parentheses is kept. -/
theorem kept_literal_greeting :
    HoldsText .text .text ∧
      defaultValue? .sqlServer .text greeting = some (.text "it's") := by
  refine ⟨.text, ?_⟩
  have hdoubled : ∀ content, Encloses .sqlServer greeting content → QuotesDoubled content := by
    intro content hcontent
    rw [hcontent.unique encloses_greeting, quotesDoubled_iff]
    decide
  refine (((kept_literal_iff .sqlServer greeting .text).2.2 hdoubled) _).2 ⟨"it's", ?_, rfl⟩
  exact encloses_greeting

/-- Two literals with an operator between them are kept as one text, which is none of a literal. -/
theorem not_literal_concatenated :
    defaultValue? .sqlite .text "'a' || 'b'" = some (.text "a' || 'b") ∧
      (∀ s, ¬ Denotes .sqlite "'a' || 'b'" s) ∧
      defaultValue? .sqlServer .text "('a') + ('b')" = some (.text "a') + ('b") ∧
      ∀ s, ¬ Denotes .sqlServer "('a') + ('b')" s := by
  have hsqlite : Encloses .sqlite "'a' || 'b'" "a' || 'b".toList := ⟨_, .plain, .core⟩
  have hsqlServer : Encloses .sqlServer "('a') + ('b')" "a') + ('b".toList :=
    ⟨_, .plain, .parentheses rfl .core⟩
  have hnot {backend : Backend} {raw s : String} {content : List Char}
      (h : Encloses backend raw content)
      (hcontent : doubled '\'' (undoubled '\'' content) ≠ content) : ¬ Denotes backend raw s :=
    fun hs => hcontent (quotesDoubled_iff.1 ⟨s.toList, h.unique hs⟩)
  refine ⟨(defaultValue?_eq_some_iff .text).2 ⟨_, hsqlite, rfl⟩, fun s => hnot hsqlite (by decide),
    (defaultValue?_eq_some_iff .text).2 ⟨_, hsqlServer, rfl⟩, fun s => hnot hsqlServer (by decide)⟩

/-- A text without NUL is printed as it is. -/
lemma printable_eq_self {cs : List Char} (h : ∀ c ∈ cs, c.toNat ≠ 0) : Backend.printable cs = cs := by
  rw [Backend.printable, List.filter_eq_self]
  exact fun c hc => bne_iff_ne.2 (h c hc)

/-- The literal that a backend writes quotes the printable part of the text with its quotes doubled. -/
lemma quotes_quoteLiteral (form : Backend) (s : String) :
    Quotes (doubled '\'' (Backend.printable s.toList)) (form.quoteLiteral s).toList := by
  cases form with
  | sqlServer => simp [Backend.quoteLiteral, Backend.enclose, quotes_iff]
  | sqlite => simp [Backend.quoteLiteral, Backend.enclose, quotes_iff]

/-- The text of an integer has neither blanks nor parentheses around it. -/
lemma bare_integerText (n : Int) :
    Bare (integerText n).toList ∧ ∀ next, ¬ Peels (integerText n).toList next := by
  have hmem : ∀ c ∈ (integerText n).toList, c = '-' ∨ c.isDigit = true := by
    intro c hc
    rw [toList_integerText] at hc
    obtain hc | hc := List.mem_append.1 hc
    · split at hc
      · exact .inl (List.mem_singleton.1 hc)
      · cases hc
    · exact .inr ((numeral_toDigits _).isDigit c hc)
  constructor
  · refine bare_of_forall fun c hc => ?_
    obtain rfl | hdigit := hmem c hc
    · decide
    · exact isBlank_of_isDigit hdigit
  · rintro next ⟨inner, heq, -⟩
    obtain h | h := hmem '(' (by rw [heq]; exact List.mem_cons_self)
    · cases h
    · cases h

/-- What a backend writes for a text is read as that text, with blanks around it and in parentheses, in
the form of either backend; and so is what is written for an integer. Leaving out parentheses ends on
every text, once there are none around it. -/
theorem decoded_of_wrapped :
    (∀ (backend form : Backend) (s raw : String) (type : LogicalType) (hold : String → Value),
      HoldsText type hold → (∀ c ∈ s.toList, c.toNat ≠ 0) →
      Wrapped backend (form.quoteLiteral s).toList raw.toList →
      defaultValue? backend type raw = some (hold s)) ∧
    (∀ (backend : Backend) (n : Int64) (raw : String),
      Wrapped backend (integerText n.toInt).toList raw.toList →
      defaultValue? backend .int raw = some (.int n)) ∧
    (WellFounded fun next text => Peels text next) ∧
    ∀ text, Relation.ReflTransGen Peels text (unwrapped text) ∧
      ∀ next, ¬ Peels (unwrapped text) next := by
  refine ⟨?literal, ?integer, wellFounded_peels, peels_unwrapped⟩
  case literal =>
    intro backend form s raw type hold hholds hs hraw
    refine defaultValue?_of_denotes hholds ⟨_, ?_, hraw⟩
    have hquotes := quotes_quoteLiteral form s
    rwa [printable_eq_self hs] at hquotes
  case integer =>
    intro backend n raw hraw
    obtain ⟨hbare, hpeels⟩ := bare_integerText n.toInt
    have hliteral := bareText_of_wrapped hbare hpeels hraw
    have hread : defaultValue? backend .int raw =
        (readInt64? (bareText backend raw.toList)).map .int := by
      cases backend <;> rfl
    rw [hread, hliteral, readInt64?_integerText, Option.map_some]

/-- The greeting is read from what SQL Server writes for it, and a negative number as it stands there. -/
theorem decoded_of_wrapped_greeting :
    HoldsText .dateTime .dateTime ∧ (∀ c ∈ "it's".toList, c.toNat ≠ 0) ∧
      Wrapped .sqlServer (Backend.sqlServer.quoteLiteral "it's").toList greeting.toList ∧
      defaultValue? .sqlServer .dateTime greeting = some (.dateTime "it's") ∧
      Wrapped .sqlServer (integerText (-5 : Int64).toInt).toList "((-5))".toList ∧
      defaultValue? .sqlServer .int "((-5))" = some (.int (-5)) := by
  have hquoted : (Backend.sqlServer.quoteLiteral "it's").toList = "N'it''s'".toList := by decide
  have hwrapped : Wrapped .sqlServer (Backend.sqlServer.quoteLiteral "it's").toList greeting.toList := by
    rw [hquoted]
    exact .parentheses rfl (.blanks (l := [' ']) (r := []) (by decide) blank_nil
      (.parentheses rfl .core))
  have hinteger : (integerText (-5 : Int64).toInt).toList = "-5".toList := by decide
  have hnegative : Wrapped .sqlServer (integerText (-5 : Int64).toInt).toList "((-5))".toList := by
    rw [hinteger]
    exact .parentheses rfl (.parentheses rfl .core)
  have hclean : ∀ c ∈ "it's".toList, c.toNat ≠ 0 := by simp
  obtain ⟨hliterals, hintegers, -, -⟩ := decoded_of_wrapped
  exact ⟨.dateTime, hclean, hwrapped,
    hliterals .sqlServer .sqlServer "it's" greeting .dateTime .dateTime .dateTime hclean hwrapped,
    hnegative, hintegers .sqlServer (-5) "((-5))" hnegative⟩

end RecordAccess
