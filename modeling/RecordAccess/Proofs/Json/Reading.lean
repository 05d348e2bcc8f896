import RecordAccess.Json.Reader
import RecordAccess.Proofs.Json.Layout
import RecordAccess.Proofs.Json.Written

/-!
# Reading laid out JSON

The text that is laid out for a value has the tokens of the value's tree (`Integral.lexes`), and the tree
denotes the value's canonical form if there is room for its containers (`Integral.value?`). Floating-point
numbers are left out: reading their text is a matter of rounding.
-/

namespace RecordAccess.Json

mutual

/-- The tree that the text of a value is read as. Floating-point numbers are left out. -/
def written : Json → Written
  | null => .null
  | bool b => .bool b
  | int n => .number (.ofInt n)
  | float _ => .null
  | string text => .string (text.toList.map pieceOf)
  | array items => .array (writtenItems items)
  | object members => .object (writtenMembers members)

/-- The trees of the items of an array. -/
def writtenItems : List Json → List Written
  | [] => []
  | item :: rest => written item :: writtenItems rest

/-- The keys of the members of an object, each with the tree of the member. -/
def writtenMembers : List (String × Json) → List (List Piece × Written)
  | [] => []
  | (key, item) :: rest => (key.toList.map pieceOf, written item) :: writtenMembers rest

end

/-- The trees of the items are those of each item. -/
lemma writtenItems_eq (items : List Json) : writtenItems items = items.map written := by
  induction items with
  | nil => rfl
  | cons item rest ih => rw [writtenItems, ih, List.map_cons]

/-- The trees of the members are those of each member, with the pieces of its key. -/
lemma writtenMembers_eq (members : List (String × Json)) :
    writtenMembers members = members.map fun m => (m.1.toList.map pieceOf, m.2.written) := by
  induction members with
  | nil => rfl
  | cons m rest ih => rw [writtenMembers, ih, List.map_cons]

/-- A value without floating-point numbers, whose integers fit into 64 bits. -/
inductive Integral : Json → Prop
  | null : Integral null
  | bool (b : Bool) : Integral (bool b)
  | int {n : Int} (hlow : -0x8000000000000000 ≤ n) (hhigh : n < 0x10000000000000000) : Integral (int n)
  | string (text : String) : Integral (string text)
  | array {items : List Json} (h : ∀ item ∈ items, Integral item) : Integral (array items)
  | object {members : List (String × Json)} (h : ∀ m ∈ members, Integral m.2) :
    Integral (object members)

mutual

/-- How deep the containers of a value are nested. -/
def depth : Json → Nat
  | array items => itemsDepth items + 1
  | object members => membersDepth members + 1
  | _ => 0

/-- How deep the containers are nested in the items of an array. -/
def itemsDepth : List Json → Nat
  | [] => 0
  | item :: rest => max (depth item) (itemsDepth rest)

/-- How deep the containers are nested in the members of an object. -/
def membersDepth : List (String × Json) → Nat
  | [] => 0
  | (_, item) :: rest => max (depth item) (membersDepth rest)

end

variable {v : Json}

/-- The start of a line is white space. -/
lemma isSpace_of_mem_lineStart {c : Char} {d : Nat} (h : c ∈ lineStart d) : isSpace c = true := by
  rcases mem_lineStart h with rfl | rfl <;> rfl

/-- What stands between the brackets of a container is read between their tokens. -/
lemma lexes_block {opening closing : Char} {first last : Token} {d : Nat} {parts : List (List Char)}
    {tokens : List Token} (hopening : punctuation? opening = some first)
    (hclosing : punctuation? closing = some last)
    (h : Lexes ([','].intercalate parts) tokens) :
    Lexes (block opening closing d parts) (first :: (tokens ++ [last])) := by
  have hend : Lexes (lineStart d ++ [closing]) [last] :=
    (lexes_nil.after_punctuation hclosing).after_spaces fun _ => isSpace_of_mem_lineStart
  exact (h.append_cons hend rfl).after_punctuation hopening

/-- Parts with commas between are read as their tokens with commas between. -/
lemma lexes_intercalate {α : Type} {l : List α} {chars : α → List Char} {tokens : α → List Token}
    (h : ∀ a ∈ l, Lexes (chars a) (tokens a)) :
    Lexes ([','].intercalate (l.map chars)) ([Token.comma].intercalate (l.map tokens)) := by
  induction l with
  | nil => exact lexes_nil
  | cons a l ih =>
    obtain ⟨ha, hl⟩ := List.forall_mem_cons.1 h
    cases l with
    | nil => simpa using ha
    | cons b l =>
      have hlater := (ih hl).after_punctuation (c := ',') rfl
      simpa [List.intercalate_cons_cons] using ha.append_cons hlater rfl

/-- What is laid out for a value is read as the tokens of its tree. -/
lemma Integral.lexes (h : Integral v) (d : Nat) : Lexes (layoutChars d v) v.written.tokens := by
  have hstart {cs : List Char} {tokens : List Token} (d : Nat) (h : Lexes cs tokens) :
      Lexes (lineStart d ++ cs) tokens := h.after_spaces fun _ => isSpace_of_mem_lineStart
  induction h generalizing d with
  | null =>
    have hnull : Lexes "null".toList [.null] := lexes_word (by decide) (by decide) rfl
    exact hnull
  | bool b =>
    have htrue : Lexes "true".toList [.bool true] := lexes_word (by decide) (by decide) rfl
    have hfalse : Lexes "false".toList [.bool false] := lexes_word (by decide) (by decide) rfl
    cases b
    · exact hfalse
    · exact htrue
  | int hlow hhigh => exact lexes_integerText _
  | string text => exact lexes_quote text
  | @array items h ih =>
    obtain rfl | hne := eq_or_ne items []
    · exact (lexes_nil.after_punctuation rfl).after_punctuation rfl
    · rw [layoutChars_array d hne, written, Written.tokens, Written.itemTokens_eq, writtenItems_eq,
        List.map_map]
      apply lexes_block rfl rfl
      exact lexes_intercalate fun item hitem => hstart (d + 1) (ih item hitem (d + 1))
  | @object members h ih =>
    obtain rfl | hne := eq_or_ne members []
    · exact (lexes_nil.after_punctuation rfl).after_punctuation rfl
    · rw [layoutChars_object d hne, written, Written.tokens, Written.memberTokens_eq,
        writtenMembers_eq, List.map_map]
      apply lexes_block rfl rfl
      refine lexes_intercalate fun m hm => hstart (d + 1) ?_
      have hvalue := ((ih m hm (d + 1)).after_space (c := ' ') rfl).after_punctuation (c := ':') rfl
      exact (lexes_quote m.1).append_cons hvalue rfl

/-- The piece of a spelled character is the character. -/
lemma Spelled.pieceChars? {c : Char} {cs : List Char} {piece : Piece} (h : Spelled c cs piece)
    (pieces : List Piece) :
    Json.pieceChars? (piece :: pieces) = (Json.pieceChars? pieces).map fun cs => c :: cs := by
  cases h with
  | plain => rfl
  | letter => rfl
  | unit hcontrol =>
    have hlow : ¬ (0xDC00 ≤ c.toNat ∧ c.toNat ≤ 0xDFFF) := by omega
    have hhigh : ¬ (0xD800 ≤ c.toNat ∧ c.toNat ≤ 0xDBFF) := by omega
    rw [Json.pieceChars?.eq_def]
    dsimp only
    rw [if_neg hlow, if_neg hhigh, Char.ofNat_toNat]

/-- The pieces of some characters are these characters. -/
lemma pieceChars?_map_pieceOf (cs : List Char) : pieceChars? (cs.map pieceOf) = some cs := by
  induction cs with
  | nil => rfl
  | cons c cs ih => rw [List.map_cons, (spelled_escapeChar c).pieceChars?, ih, Option.map_some]

/-- The pieces of a text are the text. -/
lemma pieceText?_map_pieceOf (text : String) : pieceText? (text.toList.map pieceOf) = some text := by
  rw [pieceText?, pieceChars?_map_pieceOf, Option.map_some, String.ofList_toList]

namespace Numeral

/-- Further digits make a number no less. -/
lemma le_ofDigitChars (cs : List Char) (m : Nat) : m ≤ Nat.ofDigitChars 10 cs m := by
  induction cs generalizing m with
  | nil => exact Nat.le_refl m
  | cons c cs ih =>
    rw [Nat.ofDigitChars_cons]
    exact Nat.le_trans (by omega) (ih _)

/-- Digits are kept as long as they fit into 64 bits. -/
lemma keepWhole_digitValues {cs : List Char} {m : Nat} (h : Nat.ofDigitChars 10 cs m < UInt64.size) :
    keepWhole ⟨m, 0⟩ (digitValues cs) = ⟨Nat.ofDigitChars 10 cs m, 0⟩ := by
  induction cs generalizing m with
  | nil => rfl
  | cons c cs ih =>
    rw [Nat.ofDigitChars_cons, Nat.mul_comm] at h ⊢
    have hfits := Nat.lt_of_le_of_lt (le_ofDigitChars cs _) h
    rw [digitValues, List.map_cons, keepWhole, if_pos ⟨rfl, hfits⟩]
    exact ih h

/-- The numeral that is written for an integer of 64 bits denotes it. -/
lemma value?_ofInt {n : Int} (hlow : -0x8000000000000000 ≤ n) (hhigh : n < 0x10000000000000000) :
    (ofInt n).value? = some (.int n) := by
  have hdigits : Nat.ofDigitChars 10 (Nat.toDigits 10 n.natAbs) 0 = n.natAbs :=
    Nat.ofDigitChars_ten_toDigits
  have hfits : n.natAbs < UInt64.size := by
    rw [UInt64.size]
    omega
  have hkept : keepWhole ⟨0, 0⟩ (digitValues (Nat.toDigits 10 n.natAbs)) = ⟨n.natAbs, 0⟩ := by
    rw [keepWhole_digitValues (hdigits.symm ▸ hfits), hdigits]
  unfold value? ofInt
  by_cases hneg : n < 0
  · have hzero : n ≠ 0 := by omega
    have hmost : ¬ 0x8000000000000000 < n.natAbs := by omega
    have hvalue : -(n.natAbs : Int) = n := by omega
    simp only [hkept, ne_eq, not_true_eq_false, ↓reduceIte, hneg, decide_true, Bool.not_true,
      Bool.false_eq_true, Int.natAbs_eq_zero, hzero, hmost, or_self, hvalue]
  · have hvalue : (n.natAbs : Int) = n := by omega
    simp only [hkept, ne_eq, not_true_eq_false, ↓reduceIte, hneg, decide_false, Bool.not_false, hvalue]

end Numeral

/-- The trees of the items denote their canonical forms if these do and there is room for all. -/
lemma items?_written {items : List Json} {room : Nat}
    (h : ∀ item ∈ items, item.written.value? room =
      if item.depth ≤ room then some item.canonical else none) :
    Written.items? room (writtenItems items) =
      if itemsDepth items ≤ room then some (canonicalItems items) else none := by
  induction items with
  | nil => rfl
  | cons item rest ih =>
    obtain ⟨hitem, hrest⟩ := List.forall_mem_cons.1 h
    rw [writtenItems, Written.items?, hitem, ih hrest, itemsDepth, canonicalItems]
    simp only [Nat.max_le]
    by_cases hdepth : item.depth ≤ room
    · by_cases hlater : itemsDepth rest ≤ room <;> simp [hdepth, hlater]
    · simp [hdepth]

/-- The trees of the members denote their canonical forms if these do and there is room for all. -/
lemma members?_written {members : List (String × Json)} {room : Nat}
    (h : ∀ m ∈ members, m.2.written.value? room =
      if m.2.depth ≤ room then some m.2.canonical else none) :
    Written.members? room (writtenMembers members) =
      if membersDepth members ≤ room then some (canonicalMembers members) else none := by
  induction members with
  | nil => rfl
  | cons m rest ih =>
    obtain ⟨hitem, hrest⟩ := List.forall_mem_cons.1 h
    rw [writtenMembers, Written.members?, pieceText?_map_pieceOf, hitem, ih hrest, membersDepth,
      canonicalMembers]
    simp only [Nat.max_le]
    by_cases hdepth : m.2.depth ≤ room
    · by_cases hlater : membersDepth rest ≤ room <;> simp [hdepth, hlater]
    · simp [hdepth]

/-- The tree of a value denotes its canonical form, if there is room for its containers. -/
lemma Integral.value? (h : Integral v) (room : Nat) :
    v.written.value? room = if v.depth ≤ room then some v.canonical else none := by
  induction h generalizing room with
  | null => rfl
  | bool b => rfl
  | int hlow hhigh => exact Numeral.value?_ofInt hlow hhigh
  | string text =>
    rw [written, Written.value?, pieceText?_map_pieceOf]
    rfl
  | @array items h ih =>
    rw [written, depth, canonical]
    cases room with
    | zero => rfl
    | succ inner =>
      rw [Written.value?, items?_written fun item hitem => ih item hitem inner]
      simp only [Nat.add_le_add_iff_right]
      split <;> rfl
  | @object members h ih =>
    rw [written, depth, canonical]
    cases room with
    | zero => rfl
    | succ inner =>
      rw [Written.value?, members?_written fun m hm => ih m hm inner]
      simp only [Nat.add_le_add_iff_right]
      split <;> rfl

/-- The canonical value of a JSON text, if its containers are nested at most `room` deep. -/
def ofTextWithin? (room : Nat) (text : String) : Option Json :=
  (Written.ofText? text.toList).bind (Written.value? room)

/-- A text is read with a bound on how deep its containers are nested. -/
lemma ofText?_eq (text : String) : ofText? text = ofTextWithin? maxDepth text := rfl

/-- A value without floating-point numbers is read from its text in canonical form, if there is room for
it. -/
lemma Integral.ofTextWithin?_toText (h : Integral v) (room k : Nat) :
    ofTextWithin? room (v.toText k) = if v.depth ≤ room then some v.canonical else none := by
  rw [ofTextWithin?, toText, String.toList_ofList, Written.ofText?_of_lexes (h.lexes k),
    Option.bind_some, h.value?]

/-- The tabs in front of a line. -/
def tabs (k : Nat) : String := String.ofList (List.replicate k '\t')

/-- A member stands in the text of its object as a value one level deeper, behind its key. -/
lemma toText_object_singleton (key : String) (v : Json) (k : Nat) :
    (object [(key, v)]).toText k =
      "\x7b\n" ++ tabs (k + 1) ++ (string key).compact ++ ": " ++ v.toText (k + 1) ++ "\n" ++ tabs k
        ++ "\x7d" := by
  apply String.toList_inj.1
  simp [toText, layoutChars, layoutMembers, tabs, compact, compactChars, scalarChars, lineStart]

/--
What is laid out for a value nests. A member stands in the text of an object as the text of its value
one level deeper, behind the key. A deeper text is the other one with so many more tabs after each line
feed, and so it is when that one is cut into lines and these are joined again, all but the first behind
the tabs. Without floating-point numbers the text is read as the value in its canonical form, wherever
there is room for its containers.
-/
theorem toText_nests (key : String) (v : Json) (k : Nat) :
    (object [(key, v)]).toText k =
        "\x7b\n" ++ tabs (k + 1) ++ (string key).compact ++ ": " ++ v.toText (k + 1) ++ "\n" ++ tabs k
          ++ "\x7d" ∧
      (v.toText k).toList = indented k (v.toText 0).toList ∧
      (v.toText k).toList = padded k (v.toText 0).toList ∧
      (Integral v → ∀ room,
        ofTextWithin? room (v.toText k) = if v.depth ≤ room then some v.canonical else none) := by
  have hindented := layoutChars_add k 0 v
  have hpadded := padded_layoutChars k 0 v
  rw [Nat.zero_add] at hindented hpadded
  refine ⟨toText_object_singleton key v k, ?_, ?_, fun h room => h.ofTextWithin?_toText room k⟩
  · rw [toText, toText, String.toList_ofList, String.toList_ofList, hindented]
  · rw [toText, toText, String.toList_ofList, String.toList_ofList, hpadded]

/-- A value with empty and nested containers, control characters and the integers at both ends. -/
def nestedExample : Json :=
  object [("", array []),
    ("\r\n\"", array [object [], string "\t\n\x01é\"", int (-0x8000000000000000), int 0xFFFFFFFFFFFFFFFF])]

/-- The nested example can be read back from its text. -/
theorem toText_nests_nestedExample :
    Integral nestedExample ∧ ofText? (nestedExample.toText 1) = some nestedExample := by
  have hitems : ∀ item ∈ [object [], string "\t\n\x01é\"", int (-0x8000000000000000),
      int 0xFFFFFFFFFFFFFFFF], Integral item := by
    simp only [List.forall_mem_cons]
    exact ⟨.object (List.forall_mem_nil _), .string _, .int (by decide) (by decide),
      .int (by decide) (by decide), List.forall_mem_nil _⟩
  have hintegral : Integral nestedExample := by
    apply Integral.object
    simp only [List.forall_mem_cons]
    exact ⟨.array (List.forall_mem_nil _), .array hitems, List.forall_mem_nil _⟩
  have hcanonical : nestedExample.canonical = nestedExample := rfl
  have hread := (toText_nests "" nestedExample 1).2.2.2 hintegral maxDepth
  rw [← ofText?_eq] at hread
  exact ⟨hintegral, hread.trans (congrArg some hcanonical)⟩

end RecordAccess.Json
