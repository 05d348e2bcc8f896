import RecordAccess.Proofs.Column.TypeToken

/-!
# Respelled types

Declared types that differ in the case of letters, in blanks, or in where `unsigned` stands are the same
type in another spelling (`Respelled`). What is put into a text comes to stand among the words outside
the parentheses or in one of the parts within them, unless the text is no type at all (`site`), so that
each way of respelling keeps the token.
-/

namespace RecordAccess.TypeToken

/-- What stands before a place within the parentheses. -/
def Inside (l : List Char) : Prop := '(' ∈ l ∧ ')' ∉ l

/-- A place where there may be blanks or none: at either end of a text, next to a parenthesis, and next to
a comma within the parentheses. -/
def Loose (l r : List Char) : Prop :=
  (∀ c ∈ l.getLast?, isParenthesis c = true ∨ c = ',' ∧ Inside l) ∨
    ∀ c ∈ r.head?, isParenthesis c = true ∨ c = ',' ∧ Inside l

/-- The word `unsigned` outside the parentheses, in capitals or small letters. -/
structure Unsigned (l word r : List Char) : Prop where
  word : word.map Char.toLower = "unsigned".toList
  left : ∀ c ∈ l.getLast?, isBlank c = true ∨ isParenthesis c = true
  right : ∀ c ∈ r.head?, isBlank c = true ∨ isParenthesis c = true
  outside : ¬ Inside l

/-- Two spellings of a type. -/
inductive Respelled : List Char → List Char → Prop where
  | letters {text text'} :
    text.map Char.toLower = text'.map Char.toLower →
    Respelled text text'
  | blanks {l b b' r} :
    Blank b →
    Blank b' →
    b ≠ [] ∧ b' ≠ [] ∨ Loose l r →
    Respelled (l ++ b ++ r) (l ++ b' ++ r)
  | moved {l word r l' word' r'} :
    Unsigned l word r →
    Unsigned l' word' r' →
    Respelled (l ++ r) (l' ++ r') →
    Respelled (l ++ word ++ r) (l' ++ word' ++ r')
  | trans {text text' text''} :
    Respelled text text' →
    Respelled text' text'' →
    Respelled text text''

/-- What stands on either side of a place, up to the next marks. -/
structure Segment (mark : Char → Prop) (l r x y : List Char) : Prop where
  left : x <:+ l
  right : y <+: r
  unmarkedLeft : ∀ c ∈ x, ¬ mark c
  unmarkedRight : ∀ c ∈ y, ¬ mark c

/-- A place in a text: among the words, in a part of the list, or in what is no type. -/
inductive Site (l r : List Char) : Prop where
  | outside {x y} (before after : List String) (args : Option (List Nat)) :
    ¬ Inside l →
    Segment (isParenthesis · = true) l r x y →
    (∀ cs, Plain cs → ofText? (String.ofList (l ++ cs ++ r)) =
      args.map (ofNames (before ++ names (x ++ cs ++ y) ++ after))) →
    Site l r
  | inside {x y} (names : List String) (before after : List (List Char)) :
    Inside l →
    Segment (fun c => isParenthesis c = true ∨ c = ',') l r x y →
    (∀ cs, Plain cs → ',' ∉ cs → ofText? (String.ofList (l ++ cs ++ r)) =
      (numbers? (before ++ (x ++ cs ++ y) :: after)).map (ofNames names)) →
    Site l r
  | nowhere :
    (∀ cs, Plain cs → ofText? (String.ofList (l ++ cs ++ r)) = none) →
    Site l r

variable {l r x y b b' cs text before list after word part part' : List Char}
  {parts : List Char × Option (List Char) × List Char}

/-- A text is without parentheses if both of its parts are. -/
lemma plain_append : Plain (l ++ r) ↔ Plain l ∧ Plain r := List.forall_mem_append

/-- A text put between two others is without parentheses if all three are. -/
lemma Plain.fill (hx : Plain x) (hcs : Plain cs) (hy : Plain y) : Plain (x ++ cs ++ y) :=
  plain_append.2 ⟨plain_append.2 ⟨hx, hcs⟩, hy⟩

/-- What stands before the middle is without parentheses if the whole is. -/
lemma Plain.left (h : Plain (x ++ cs ++ y)) : Plain x := (plain_append.1 (plain_append.1 h).1).1

/-- What stands behind the middle is without parentheses if the whole is. -/
lemma Plain.right (h : Plain (x ++ cs ++ y)) : Plain y := (plain_append.1 h).2

/-- A text without parentheses has no opening one. -/
lemma Plain.opening (h : Plain l) : '(' ∉ l := fun hmem => by cases h _ hmem

/-- A text without parentheses has no closing one. -/
lemma Plain.closing (h : Plain l) : ')' ∉ l := fun hmem => by cases h _ hmem

/-- The texts on either side of a place, up to the ends or the next marks, are a segment if they are
without parentheses. -/
lemma Segment.of_plain (hl : x <:+ l) (hr : y <+: r) (hx : Plain x) (hy : Plain y) :
    Segment (isParenthesis · = true) l r x y :=
  ⟨hl, hr, fun c hc => by simp [hx c hc], fun c hc => by simp [hy c hc]⟩

/-- A place in a text without parentheses. -/
lemma Site.alone (hl : Plain l) (hr : Plain r) : Site l r := by
  refine .outside [] [] (some []) (fun h => hl.opening h.1)
    (.of_plain List.suffix_rfl List.prefix_rfl hl hr) fun cs hcs => ?_
  rw [ofText?_of_cut (.words (hl.fill hcs hr))]
  simp [args?, names]

/-- A place among the words before the parentheses is a site. -/
lemma Site.ahead (hl : Plain l) (hr : Plain r) (hlist : Plain list) (hafter : Plain after) :
    Site l (r ++ '(' :: (list ++ ')' :: after)) := by
  refine .outside [] (names after) (args? (some list)) (fun h => hl.opening h.1)
    (.of_plain List.suffix_rfl (List.prefix_append _ _) hl hr) fun cs hcs => ?_
  have hcut := Cut.listed (hl.fill hcs hr) hlist hafter
  rw [← List.append_assoc (l ++ cs), ofText?_of_cut hcut, List.nil_append]

/-- A place among the words after the parentheses is a site. -/
lemma Site.behind (hbefore : Plain before) (hlist : Plain list) (hl : Plain l) (hr : Plain r) :
    Site (before ++ '(' :: (list ++ ')' :: l)) r := by
  have hsuffix : l <:+ before ++ '(' :: (list ++ ')' :: l) :=
    ⟨before ++ '(' :: (list ++ [')']), by simp⟩
  refine .outside (names before) [] (args? (some list)) (fun h => h.2 (by simp))
    (.of_plain hsuffix List.prefix_rfl hl hr) fun cs hcs => ?_
  have hcut := Cut.listed hbefore hlist (hl.fill hcs hr)
  have htext : before ++ '(' :: (list ++ ')' :: l) ++ cs ++ r =
      before ++ '(' :: (list ++ ')' :: (l ++ cs ++ r)) := by simp
  rw [htext, ofText?_of_cut hcut, List.append_nil]

/-- A place in the parentheses is one in a part of the list. -/
lemma Site.within (hbefore : Plain before) (hl : Plain l) (hr : Plain r) (hafter : Plain after) :
    Site (before ++ '(' :: l) (r ++ ')' :: after) := by
  obtain ⟨parts, x, y, parts', hx, hleft, hy, hright, hsplit⟩ := exists_splitOn_append ',' l r
  have hinside : Inside (before ++ '(' :: l) := by
    refine ⟨by simp, fun hmem => ?_⟩
    simp [hbefore.closing, hl.closing] at hmem
  have hsegment : Segment (fun c => isParenthesis c = true ∨ c = ',')
      (before ++ '(' :: l) (r ++ ')' :: after) x y := by
    refine ⟨hx.trans ⟨before ++ ['('], by simp⟩, hy.trans (List.prefix_append _ _), ?_, ?_⟩
    · rintro c hc (hparenthesis | rfl)
      · cases (hl c (hx.subset hc)).symm.trans hparenthesis
      · exact hleft hc
    · rintro c hc (hparenthesis | rfl)
      · cases (hr c (hy.subset hc)).symm.trans hparenthesis
      · exact hright hc
  refine .inside (names before ++ names after) parts parts' hinside hsegment fun cs hcs hcomma => ?_
  have hcut := Cut.listed hbefore (hl.fill hcs hr) hafter
  have htext : before ++ '(' :: l ++ cs ++ (r ++ ')' :: after) =
      before ++ '(' :: (l ++ cs ++ r ++ ')' :: after) := by simp
  rw [htext, ofText?_of_cut hcut, args?, Option.elim_some, hsplit cs hcomma]

/-- In a text that can be cut, a place next to a plain text is a site, whichever part it is in. -/
lemma Site.of_cut (hcs : Plain cs) (h : Cut (l ++ cs ++ r) parts) : Site l r := by
  generalize htext : l ++ cs ++ r = text at h
  cases h with
  | words hplain =>
    subst htext
    exact .alone hplain.left hplain.right
  | @listed before list after hbefore hlist hafter =>
    obtain ⟨x, rfl, hx⟩ | ⟨y, rfl, rfl⟩ := append_eq_append_cons hcs.opening htext
    · obtain ⟨x, rfl, rfl⟩ | ⟨y, rfl, rfl⟩ := append_eq_append_cons hcs.closing hx.symm
      · exact .behind hbefore hlist hafter.left hafter.right
      · exact .within hbefore hlist.left hlist.right hafter
    · exact .ahead hbefore.left hbefore.right hlist hafter

/-- Every place of every text is a site. -/
lemma site (l r : List Char) : Site l r := by
  by_cases h : ∃ cs parts, Plain cs ∧ Cut (l ++ cs ++ r) parts
  · obtain ⟨cs, parts, hcs, hcut⟩ := h
    exact .of_cut hcs hcut
  · exact .nowhere fun cs hcs => ofText?_of_not_cut fun parts hcut => h ⟨cs, parts, hcs, hcut⟩

/-- What ends the near text before a place ends all that stands before it. -/
lemma Segment.getLast? {mark : Char → Prop} {c : Char} (h : Segment mark l r x y)
    (hc : c ∈ x.getLast?) : c ∈ l.getLast? := by
  obtain ⟨before, rfl⟩ := h.left
  rw [List.getLast?_append, Option.mem_def.1 hc]
  rfl

/-- What begins the near text behind a place begins all that stands behind it. -/
lemma Segment.head? {mark : Char → Prop} {c : Char} (h : Segment mark l r x y)
    (hc : c ∈ y.head?) : c ∈ r.head? := by
  obtain ⟨after, rfl⟩ := h.right
  rw [List.head?_append, Option.mem_def.1 hc]
  rfl

/-- Next to a mark there is nothing up to the next mark. -/
lemma Segment.eq_nil {mark : Char → Prop} (h : Segment mark l r x y)
    (hmark : (∀ c ∈ l.getLast?, mark c) ∨ ∀ c ∈ r.head?, mark c) : x = [] ∨ y = [] := by
  obtain hmark | hmark := hmark
  · refine .inl (List.getLast?_eq_none_iff.1 (Option.eq_none_iff_forall_not_mem.2 fun c hc => ?_))
    exact h.unmarkedLeft c (List.mem_of_getLast? hc) (hmark c (h.getLast? hc))
  · refine .inr (List.head?_eq_none_iff.1 (Option.eq_none_iff_forall_not_mem.2 fun c hc => ?_))
    exact h.unmarkedRight c (List.mem_of_mem_head? hc) (hmark c (h.head? hc))

/-- Blanks have no parentheses among them. -/
lemma plain_of_blank (h : Blank cs) : Plain cs := by
  intro c hc
  cases hmark : isParenthesis c with
  | false => rfl
  | true =>
    obtain rfl | rfl : c = '(' ∨ c = ')' := by simpa [isParenthesis] using hmark
    · cases h _ hc
    · cases h _ hc

/-- Blanks have no comma among them. -/
lemma comma_not_mem_of_blank (h : Blank cs) : ',' ∉ cs := fun hmem => by cases h _ hmem

/-- Other blanks between two texts leave the words, if there are some in both cases or nothing on one
side. -/
lemma words_congr (hb : Blank b) (hb' : Blank b') (h : b ≠ [] ∧ b' ≠ [] ∨ x = [] ∨ y = []) :
    words (x ++ b ++ y) = words (x ++ b' ++ y) := by
  rw [words_append_blank hb (h.imp_left And.left), words_append_blank hb' (h.imp_left And.right)]

/-- Another part with the same words leaves the numbers of the list. -/
lemma numbers?_congr (h : words part = words part') (before after : List (List Char)) :
    numbers? (before ++ part :: after) = numbers? (before ++ part' :: after) := by
  have hread : unsigned64? (trimChars part) = unsigned64? (trimChars part') :=
    Option.ext fun n => by simp only [unsigned64?_trimChars_eq_some_iff_words, h]
  induction before with
  | nil => simp only [List.nil_append, numbers?, hread]
  | cons first before ih => simp only [List.cons_append, numbers?, ih]

/-- Other blanks at a place leave the token, if there are some in both cases or the place needs none. -/
lemma ofText?_blanks (hb : Blank b) (hb' : Blank b') (h : b ≠ [] ∧ b' ≠ [] ∨ Loose l r) :
    ofText? (String.ofList (l ++ b ++ r)) = ofText? (String.ofList (l ++ b' ++ r)) := by
  have hplain := plain_of_blank hb
  have hplain' := plain_of_blank hb'
  cases site l r with
  | @outside x y before after args houtside hsegment hread =>
    have hloose : b ≠ [] ∧ b' ≠ [] ∨ x = [] ∨ y = [] := by
      refine h.imp_right fun hloose => hsegment.eq_nil ?_
      simpa [Loose, houtside] using hloose
    rw [hread b hplain, hread b' hplain', names_eq, names_eq, words_congr hb hb' hloose]
  | @inside x y names before after hinside hsegment hread =>
    have hloose : b ≠ [] ∧ b' ≠ [] ∨ x = [] ∨ y = [] := by
      refine h.imp_right fun hloose => hsegment.eq_nil ?_
      simpa [Loose, hinside] using hloose
    rw [hread b hplain (comma_not_mem_of_blank hb), hread b' hplain' (comma_not_mem_of_blank hb'),
      numbers?_congr (words_congr hb hb' hloose)]
  | nowhere hread => rw [hread b hplain, hread b' hplain']

/-- A character is a parenthesis if its small letter is. -/
lemma isParenthesis_toLower (c : Char) : isParenthesis c.toLower = isParenthesis c :=
  toLower_induction (by decide) c

/-- Small letters are without parentheses if the text is. -/
lemma plain_map_toLower : Plain (cs.map Char.toLower) ↔ Plain cs := by
  simp [Plain, isParenthesis_toLower]

/-- The word `unsigned` among the words of a type sets the token's mark and changes nothing else. -/
lemma ofNames_insert (before after : List String) (args : List Nat) :
    ofNames (before ++ "unsigned" :: after) args =
      { ofNames (before ++ after) args with unsigned := true } := by
  simp [ofNames]

/-- The word `unsigned` has no parentheses in it, whatever the case of its letters. -/
lemma Unsigned.plain (h : Unsigned l word r) : Plain word := by
  rw [← plain_map_toLower, h.word]
  simp [Plain, isParenthesis]

/-- The word stands between the words on either side of it. -/
lemma Unsigned.names_eq (h : Unsigned l word r) (hsegment : Segment (isParenthesis · = true) l r x y) :
    names (x ++ word ++ y) = names x ++ "unsigned" :: names y ∧
      names (x ++ y) = names x ++ names y := by
  have hleft (c) (hc : c ∈ x.getLast?) : isBlank c = true :=
    (h.left c (hsegment.getLast? hc)).resolve_right
      (hsegment.unmarkedLeft c (List.mem_of_getLast? hc))
  have hright (c) (hc : c ∈ y.head?) : isBlank c = true :=
    (h.right c (hsegment.head? hc)).resolve_right
      (hsegment.unmarkedRight c (List.mem_of_mem_head? hc))
  have hblank : ∀ c ∈ word, isBlank c = false := by
    have hall : ∀ c ∈ word.map Char.toLower, isBlank c = false := by
      rw [h.word]
      simp [isBlank]
    simpa [isBlank_toLower] using hall
  have hne : word ≠ [] := by
    rintro rfl
    cases h.word
  have hlower : lowercase (String.ofList word) = "unsigned" := by
    rw [← lowercase_map_toLower, h.word]
    decide
  constructor
  · rw [TypeToken.names_eq, words_append (.inr hright), words_append (.inl hleft),
      words_of_forall hblank hne]
    simp [TypeToken.names_eq, hlower]
  · rw [TypeToken.names_eq, words_append (.inl hleft)]
    simp [TypeToken.names_eq]

/-- The word `unsigned` in a text sets the mark of the token that the rest spells. -/
lemma ofText?_unsigned (h : Unsigned l word r) :
    ofText? (String.ofList (l ++ word ++ r)) =
      (ofText? (String.ofList (l ++ r))).map fun token => { token with unsigned := true } := by
  have hempty : l ++ [] ++ r = l ++ r := by rw [List.append_nil]
  cases site l r with
  | @outside x y before after args houtside hsegment hread =>
    obtain ⟨hword, hrest⟩ := h.names_eq hsegment
    have hinsert : before ++ (names x ++ "unsigned" :: names y) ++ after =
        before ++ names x ++ "unsigned" :: (names y ++ after) := by simp
    have hremove : before ++ (names x ++ names y) ++ after =
        before ++ names x ++ (names y ++ after) := by simp
    rw [hread word h.plain, hword, hinsert, ← hempty, hread [] nofun, List.append_nil, hrest, hremove,
      Option.map_map]
    congr 1
    funext args
    exact ofNames_insert _ _ args
  | inside _ _ _ hinside => exact absurd hinside h.outside
  | nowhere hread => rw [hread word h.plain, ← hempty, hread [] nofun, Option.map_none]

/-- The words of a type do not depend on the case of its letters. -/
lemma names_map_toLower (cs : List Char) : names (cs.map Char.toLower) = names cs := by
  rw [names_eq, names_eq, words_map isBlank_toLower, List.map_map]
  exact List.map_congr_left fun word _ => lowercase_map_toLower word

/-- The number in a text does not depend on the case of its letters. -/
lemma unsigned64?_map_toLower (cs : List Char) :
    unsigned64? (cs.map Char.toLower) = unsigned64? cs := by
  have hdigit (c : Char) : digit? c.toLower = digit? c := toLower_induction (by decide) c
  have hdigits (read : Nat) (cs : List Char) :
      digitsFrom? read (cs.map Char.toLower) = digitsFrom? read cs := by
    induction cs generalizing read with
    | nil => rfl
    | cons c cs ih => simp only [List.map_cons, digitsFrom?, hdigit, ih]
  have hnatural (cs : List Char) : natural? (cs.map Char.toLower) = natural? cs := by
    cases cs with
    | nil => rfl
    | cons c cs => exact hdigits 0 (c :: cs)
  have hplus : '+'.toLower = '+' := by decide
  cases cs with
  | nil => rfl
  | cons c cs =>
    by_cases hc : c = '+'
    · subst hc
      simp only [List.map_cons, hplus, unsigned64?, hnatural]
    · have hlower : c.toLower ≠ '+' := mt (toLower_eq_iff (by decide) c).1 hc
      have hcons := hnatural (c :: cs)
      rw [List.map_cons] at hcons ⊢
      simp [unsigned64?, hc, hlower, hcons]

/-- The numbers in the parentheses do not depend on the case of letters. -/
lemma args?_map_toLower (list : Option (List Char)) :
    args? (list.map (List.map Char.toLower)) = args? list := by
  have hcomma (c : Char) : (c.toLower == ',') = (c == ',') :=
    toLower_induction (f := fun c => c == ',') (by decide) c
  have hpart (part : List Char) :
      unsigned64? (trimChars (part.map Char.toLower)) = unsigned64? (trimChars part) := by
    refine Option.ext fun n => ?_
    simp [unsigned64?_trimChars_eq_some_iff_words, words_map isBlank_toLower,
      List.map_eq_singleton_iff, unsigned64?_map_toLower]
  have hparts (parts : List (List Char)) :
      numbers? (parts.map (List.map Char.toLower)) = numbers? parts := by
    induction parts with
    | nil => rfl
    | cons part parts ih => simp only [List.map_cons, numbers?, hpart, ih]
  cases list with
  | none => rfl
  | some list =>
    rw [Option.map_some, args?, Option.elim_some, List.splitOn_eq_splitOnP, splitOnP_map hcomma, hparts]
    rfl

/-- A text in small letters is cut where the text itself is. -/
lemma Cut.map_toLower {list : Option (List Char)} (h : Cut text (before, list, after)) :
    Cut (text.map Char.toLower)
      (before.map Char.toLower, list.map (List.map Char.toLower), after.map Char.toLower) := by
  cases h with
  | words h => exact .words (plain_map_toLower.2 h)
  | listed hbefore hlist hafter =>
    simp only [List.map_append, List.map_cons]
    exact .listed (plain_map_toLower.2 hbefore) (plain_map_toLower.2 hlist)
      (plain_map_toLower.2 hafter)

/-- A text can be cut if it can in small letters. -/
lemma Cut.exists_of_map_toLower (h : Cut (text.map Char.toLower) parts) : ∃ parts', Cut text parts' := by
  generalize htext : text.map Char.toLower = lowered at h
  cases h with
  | words h => exact ⟨_, .words (plain_map_toLower.1 (htext ▸ h))⟩
  | listed hbefore hlist hafter =>
    obtain ⟨before, _, rfl, rfl, hrest⟩ := List.map_eq_append_iff.1 htext
    obtain ⟨c, _, rfl, hopening, hinner⟩ := List.map_eq_cons_iff.1 hrest
    obtain ⟨list, _, rfl, rfl, hend⟩ := List.map_eq_append_iff.1 hinner
    obtain ⟨d, after, rfl, hclosing, rfl⟩ := List.map_eq_cons_iff.1 hend
    obtain rfl := (toLower_eq_iff (by decide) c).1 hopening
    obtain rfl := (toLower_eq_iff (by decide) d).1 hclosing
    exact ⟨_, .listed (plain_map_toLower.1 hbefore) (plain_map_toLower.1 hlist)
      (plain_map_toLower.1 hafter)⟩

/-- The token does not depend on the case of letters. -/
lemma ofText?_map_toLower (text : List Char) :
    ofText? (String.ofList (text.map Char.toLower)) = ofText? (String.ofList text) := by
  by_cases h : ∃ parts, Cut text parts
  · obtain ⟨⟨before, list, after⟩, hcut⟩ := h
    rw [ofText?_of_cut hcut, ofText?_of_cut hcut.map_toLower, args?_map_toLower, names_map_toLower,
      names_map_toLower]
  · rw [ofText?_of_not_cut fun parts hcut => h ⟨parts, hcut⟩,
      ofText?_of_not_cut fun parts hcut => h hcut.exists_of_map_toLower]

/-- The token does not depend on the spelling. -/
lemma Respelled.ofText?_eq {text' : List Char} (h : Respelled text text') :
    ofText? (String.ofList text) = ofText? (String.ofList text') := by
  induction h with
  | letters h => rw [← ofText?_map_toLower, h, ofText?_map_toLower]
  | blanks hb hb' h => exact ofText?_blanks hb hb' h
  | moved h h' _ ih => rw [ofText?_unsigned h, ofText?_unsigned h', ih]
  | trans _ _ ih ih' => exact ih.trans ih'

/-- The type of a column is looked at for its token only. -/
lemma column_congr (backend : Backend) (native : NativeColumn) {type type' : String}
    (h : ofText? type = ofText? type') :
    Column.ofNative? backend { native with dataType := type' } =
      (Column.ofNative? backend { native with dataType := type }).map fun column =>
        { column with nativeType := type' } := by
  have hmapping : Mapping.ofNative? backend { native with dataType := type' } =
      Mapping.ofNative? backend { native with dataType := type } := by
    rw [Mapping.ofNative?, Mapping.ofNative?, h]
    cases backend <;> rfl
  rw [Column.ofNative?, Column.ofNative?, hmapping]
  cases Mapping.ofNative? backend { native with dataType := type } <;> rfl

/-- A declared type is read if it is spelled by the grammar, as the token that it spells. Two spellings of
a type are read as one token, and the columns that have them differ in nothing but the spelling. -/
theorem read_as_spelled :
    (∀ (type : String) (token : TypeToken), ofText? type = some token ↔ Spells type.toList token) ∧
    ∀ type type' : String, Respelled type.toList type'.toList →
      ofText? type = ofText? type' ∧
      ∀ (backend : Backend) (native : NativeColumn),
        Column.ofNative? backend { native with dataType := type' } =
          (Column.ofNative? backend { native with dataType := type }).map fun column =>
            { column with nativeType := type' } := by
  constructor
  · intro type token
    rw [← ofText?_eq_some_iff, String.ofList_toList]
  · intro type type' h
    have htoken := h.ofText?_eq
    rw [String.ofList_toList, String.ofList_toList] at htoken
    exact ⟨htoken, fun backend native => column_congr backend native htoken⟩

/-- The two spellings of an unsigned integer differ in the case, the blanks and the order of the words.
-/
lemma respelled_int : Respelled "INT(11) UNSIGNED".toList "unsigned\tint( 11)".toList := by
  have hcapitals : Unsigned "INT(11) ".toList "UNSIGNED".toList [] :=
    ⟨by decide, by simp [isBlank], by simp, fun h => h.2 (by decide)⟩
  have hsmall : Unsigned [] "unsigned".toList "\tint( 11)".toList :=
    ⟨by decide, by simp, by simp [isBlank], by simp [Inside]⟩
  have hletters : Respelled "INT(11) ".toList "int(11) ".toList := .letters (by decide)
  have hending : Respelled "int(11) ".toList "int(11)".toList :=
    @Respelled.blanks "int(11)".toList [' '] [] [] (by decide) blank_nil (.inr (.inr (by simp)))
  have hstart : Respelled "int(11)".toList "\tint(11)".toList :=
    @Respelled.blanks [] [] ['\t'] "int(11)".toList blank_nil (by decide) (.inr (.inl (by simp)))
  have hnumber : Respelled "\tint(11)".toList "\tint( 11)".toList :=
    @Respelled.blanks "\tint(".toList [] [' '] "11)".toList blank_nil (by decide)
      (.inr (.inl (by simp [isParenthesis])))
  exact .moved hcapitals hsmall (((hletters.trans hending).trans hstart).trans hnumber)

/-- The same type in capitals and in small letters, with its words in either order. -/
theorem read_as_spelled_int :
    Respelled "INT(11) UNSIGNED".toList "unsigned\tint( 11)".toList ∧
      ofText? "INT(11) UNSIGNED" = some { base := "int", args := [11], unsigned := true } ∧
      ofText? "unsigned\tint( 11)" = some { base := "int", args := [11], unsigned := true } := by
  have hread : ofText? "INT(11) UNSIGNED" = some { base := "int", args := [11], unsigned := true } := by
    decide
  exact ⟨respelled_int, hread, (read_as_spelled.2 _ _ respelled_int).1.symm.trans hread⟩

end RecordAccess.TypeToken
