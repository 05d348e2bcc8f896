/-!
# Parts of a Text

Cutting a text at a character or after a known beginning, and doubling and undoubling quotes.
-/

namespace RecordAccess

/-- The parts of a text between the occurrences of `mark`; one more part than occurrences. -/
def splitAt (mark : Char) : List Char → List (List Char)
  | [] => [[]]
  | c :: rest =>
    if c = mark then [] :: splitAt mark rest
    else
      match splitAt mark rest with
      | part :: parts => (c :: part) :: parts
      | [] => [[c]]

/-- The parts before and after the first `mark`, if there is one. -/
def cutAtFirst? (mark : Char) : List Char → Option (List Char × List Char)
  | [] => none
  | c :: rest =>
    if c = mark then some ([], rest)
    else (cutAtFirst? mark rest).map fun (before, after) => (c :: before, after)

/-- The parts before and after the last `mark`, if there is one. -/
def cutAtLast? (mark : Char) : List Char → Option (List Char × List Char)
  | [] => none
  | c :: rest =>
    match cutAtLast? mark rest with
    | some (before, after) => some (c :: before, after)
    | none => if c = mark then some ([], rest) else none

/-- What follows `start` in a text that begins with it. -/
def afterStart? : (start text : List Char) → Option (List Char)
  | [], text => some text
  | _ :: _, [] => none
  | s :: start, c :: text => if s = c then afterStart? start text else none

/-- What precedes `ending` in a text that ends with it. -/
def beforeEnding? (ending text : List Char) : Option (List Char) :=
  (afterStart? ending.reverse text.reverse).map List.reverse

/-- A text is its start and what follows it. -/
theorem eq_append_of_afterStart? {start text rest : List Char}
    (h : afterStart? start text = some rest) : text = start ++ rest := by
  induction start generalizing text with
  | nil => simpa [afterStart?] using h
  | cons s start ih =>
    cases text with
    | nil => simp [afterStart?] at h
    | cons c text =>
      by_cases hs : s = c
      · simp only [afterStart?, hs, if_true] at h
        simp [ih h, hs]
      · simp [afterStart?, hs] at h

/-- A text is what precedes its ending, and the ending. -/
theorem eq_append_of_beforeEnding? {ending text before : List Char}
    (h : beforeEnding? ending text = some before) : text = before ++ ending := by
  obtain ⟨r, hr, rfl⟩ := Option.map_eq_some_iff.1 h
  have := congrArg List.reverse (eq_append_of_afterStart? hr)
  simpa using this

/-- What follows a start that a text was given. -/
theorem afterStart?_append (start rest : List Char) : afterStart? start (start ++ rest) = some rest := by
  induction start with
  | nil => rfl
  | cons s start ih => simpa [afterStart?] using ih

/-- What precedes an ending that a text was given. -/
theorem beforeEnding?_append (ending before : List Char) :
    beforeEnding? ending (before ++ ending) = some before := by
  simp [beforeEnding?, afterStart?_append]

/-- A text is cut at the mark before which there is none. -/
theorem cutAtFirst?_eq_some {mark : Char} {text before after : List Char} :
    cutAtFirst? mark text = some (before, after) ↔
      text = before ++ mark :: after ∧ ¬ mark ∈ before := by
  induction text generalizing before with
  | nil => simp [cutAtFirst?]
  | cons c rest ih =>
    by_cases hc : c = mark
    · subst hc
      cases before with
      | nil => simp [cutAtFirst?, eq_comm]
      | cons d before => simp +contextual [cutAtFirst?]
    · cases before with
      | nil => simp [cutAtFirst?, hc]
      | cons d before =>
        have hmark : ¬ mark = c := fun h => hc h.symm
        have hcut : cutAtFirst? mark (c :: rest) = some (d :: before, after) ↔
            c = d ∧ cutAtFirst? mark rest = some (before, after) := by
          simp only [cutAtFirst?, hc, if_false, Option.map_eq_some_iff]
          constructor
          · rintro ⟨⟨before', after'⟩, hrest, heq⟩
            cases heq
            exact ⟨rfl, hrest⟩
          · rintro ⟨rfl, hrest⟩
            exact ⟨(before, after), hrest, rfl⟩
        rw [hcut, ih, List.cons_append, List.cons.injEq, List.mem_cons, not_or, and_assoc]
        constructor
        · rintro ⟨rfl, heq, hbefore⟩
          exact ⟨rfl, heq, hmark, hbefore⟩
        · rintro ⟨rfl, heq, -, hbefore⟩
          exact ⟨rfl, heq, hbefore⟩

/-- Whether `part` occurs somewhere in a text. -/
def occursIn (part : List Char) : List Char → Bool
  | [] => part.isEmpty
  | c :: rest => (afterStart? part (c :: rest)).isSome || occursIn part rest

/-- The text with every `quote` written twice. -/
def doubled (quote : Char) : List Char → List Char
  | [] => []
  | c :: rest => if c = quote then c :: c :: doubled quote rest else c :: doubled quote rest

/-- The text with each pair of quotes, taken from the left, written once. -/
def undoubled (quote : Char) : List Char → List Char
  | [] => []
  | [c] => [c]
  | c :: d :: rest =>
    if c = quote ∧ d = quote then quote :: undoubled quote rest
    else c :: undoubled quote (d :: rest)

/-- The texts one after another with `separator` between them. -/
def joinTexts (separator : String) : List String → String
  | [] => ""
  | [text] => text
  | text :: rest => text ++ separator ++ joinTexts separator rest

end RecordAccess
