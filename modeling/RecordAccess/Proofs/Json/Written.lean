import Mathlib.Data.List.Basic
import RecordAccess.Json.Written
import RecordAccess.Proofs.Json.Tokens

/-!
# Trees of JSON tokens

A tree is written with the tokens of what it holds, parted by commas (`Written.tokens`). Wherever a value
is due these are read as the tree, whatever stands unfinished on the stack (`reads_tokens`), so that a
text with these tokens is read as the tree (`ofText?_of_lexes`).
-/

namespace RecordAccess.Json.Written

mutual

/-- The tokens that a tree is written with. -/
def tokens : Written → List Token
  | null => [.null]
  | bool value => [.bool value]
  | number numeral => [.number numeral]
  | string pieces => [.string pieces]
  | array items => .openArray :: (itemTokens items ++ [.closeArray])
  | object members => .openObject :: (memberTokens members ++ [.closeObject])

/-- The tokens of the items of an array, parted by commas. -/
def itemTokens : List Written → List Token
  | [] => []
  | [item] => tokens item
  | item :: rest => tokens item ++ .comma :: itemTokens rest

/-- The tokens of the members of an object, parted by commas. -/
def memberTokens : List (List Piece × Written) → List Token
  | [] => []
  | [(key, item)] => .string key :: .colon :: tokens item
  | (key, item) :: rest => .string key :: .colon :: (tokens item ++ .comma :: memberTokens rest)

end

/-- The tokens of the first item stand before a comma and those of the others. -/
lemma itemTokens_cons (item next : Written) (items : List Written) :
    itemTokens (item :: next :: items) = item.tokens ++ .comma :: itemTokens (next :: items) := by
  simp [itemTokens]

/-- The tokens of the first member stand before a comma and those of the others. -/
lemma memberTokens_cons (m next : List Piece × Written) (members : List (List Piece × Written)) :
    memberTokens (m :: next :: members) =
      .string m.1 :: .colon :: (m.2.tokens ++ .comma :: memberTokens (next :: members)) := by
  simp [memberTokens]

/-- The tokens of the items are those of each item, parted by commas. -/
lemma itemTokens_eq (items : List Written) :
    itemTokens items = [Token.comma].intercalate (items.map tokens) := by
  induction items with
  | nil => rfl
  | cons item rest ih =>
    cases rest with
    | nil => simp [itemTokens]
    | cons next rest => simp [itemTokens_cons, ih, List.intercalate_cons_cons]

/-- The tokens of the members are those of each key and member, parted by commas. -/
lemma memberTokens_eq (members : List (List Piece × Written)) :
    memberTokens members =
      [Token.comma].intercalate (members.map fun m => .string m.1 :: .colon :: m.2.tokens) := by
  induction members with
  | nil => rfl
  | cons m rest ih =>
    cases rest with
    | nil => simp [memberTokens]
    | cons next rest => simp [memberTokens_cons, ih, List.intercalate_cons_cons]

/-- To run on some tokens is to run on the later ones after a step. -/
lemma run_cons (p : Progress) (token : Token) (rest : List Token) :
    run p (token :: rest) = (step p token).bind fun next => run next rest := by
  rw [run]
  cases step p token <;> rfl

/-- The first item of an array is read as any other. -/
lemma run_itemOrEnd (item : Written) (items : List Written) (stack : List Frame) (rest : List Token) :
    run ⟨.itemOrEnd, stack⟩ (itemTokens (item :: items) ++ rest) =
      run ⟨.value, stack⟩ (itemTokens (item :: items) ++ rest) := by
  cases items with
  | nil => cases item <;> rfl
  | cons next items =>
    rw [itemTokens_cons]
    cases item <;> rfl

/-- The first member of an object is read as any other. -/
lemma run_keyOrEnd (m : List Piece × Written) (members : List (List Piece × Written))
    (stack : List Frame) (rest : List Token) :
    run ⟨.keyOrEnd, stack⟩ (memberTokens (m :: members) ++ rest) =
      run ⟨.key, stack⟩ (memberTokens (m :: members) ++ rest) := by
  obtain ⟨key, item⟩ := m
  cases members with
  | nil => rfl
  | cons next members =>
    rw [memberTokens_cons]
    rfl

/-- A tree is read from some tokens, wherever a value is due. -/
def Reads (w : Written) (tokens : List Token) : Prop :=
  ∀ stack rest, run ⟨.value, stack⟩ (tokens ++ rest) = (finish w stack).bind fun next => run next rest

/-- The items of an array are put behind those read before. -/
lemma run_itemTokens {items : List Written} (h : ∀ item ∈ items, Reads item item.tokens)
    (hne : items ≠ []) (before : List Written) (stack : List Frame) (rest : List Token) :
    run ⟨.value, .array before :: stack⟩ (itemTokens items ++ .closeArray :: rest) =
      (finish (.array (before.reverse ++ items)) stack).bind fun next => run next rest := by
  induction items generalizing before with
  | nil => exact absurd rfl hne
  | cons item items ih =>
    obtain ⟨hitem, hitems⟩ := List.forall_mem_cons.1 h
    cases items with
    | nil =>
      rw [itemTokens, hitem, finish, Option.bind_some, run_cons]
      simp [step, endContainer]
    | cons next items =>
      rw [itemTokens_cons, List.append_assoc, hitem, finish, Option.bind_some, List.cons_append,
        run_cons]
      simp [step, ih hitems]

/-- The members of an object are put behind those read before. -/
lemma run_memberTokens {members : List (List Piece × Written)}
    (h : ∀ m ∈ members, Reads m.2 m.2.tokens) (hne : members ≠ [])
    (before : List (List Piece × Written)) (stack : List Frame) (rest : List Token) :
    run ⟨.key, .object before :: stack⟩ (memberTokens members ++ .closeObject :: rest) =
      (finish (.object (before.reverse ++ members)) stack).bind fun next => run next rest := by
  induction members generalizing before with
  | nil => exact absurd rfl hne
  | cons m members ih =>
    obtain ⟨key, item⟩ := m
    obtain ⟨hitem, hmembers⟩ := List.forall_mem_cons.1 h
    have hkey (tokens : List Token) :
        run ⟨.key, .object before :: stack⟩ (.string key :: .colon :: tokens) =
          run ⟨.value, .member before key :: stack⟩ tokens := rfl
    cases members with
    | nil =>
      rw [memberTokens, List.cons_append, List.cons_append, hkey, hitem, finish, Option.bind_some,
        run_cons]
      simp [step, endContainer]
    | cons next members =>
      rw [memberTokens_cons, List.cons_append, List.cons_append, hkey, List.append_assoc, hitem,
        finish, Option.bind_some, List.cons_append, run_cons]
      simp [step, ih hmembers]

/-- What a tree is written with is read as the tree. -/
theorem reads_tokens (w : Written) : Reads w w.tokens := by
  match w with
  | null => exact fun _ _ => run_cons _ _ _
  | bool value => exact fun _ _ => run_cons _ _ _
  | number numeral => exact fun _ _ => run_cons _ _ _
  | string pieces => exact fun _ _ => run_cons _ _ _
  | array [] => exact fun stack rest => run_cons ⟨.itemOrEnd, .array [] :: stack⟩ .closeArray rest
  | array (item :: items) =>
    have h : ∀ i ∈ item :: items, Reads i i.tokens := fun i _ => reads_tokens i
    intro stack rest
    rw [tokens, List.cons_append, run_cons, List.append_assoc]
    exact (run_itemOrEnd item items _ _).trans
      (run_itemTokens h (List.cons_ne_nil _ _) [] stack rest)
  | object [] => exact fun stack rest => run_cons ⟨.keyOrEnd, .object [] :: stack⟩ .closeObject rest
  | object (m :: members) =>
    have h : ∀ n ∈ m :: members, Reads n.2 n.2.tokens := fun n _ => reads_tokens n.2
    intro stack rest
    rw [tokens, List.cons_append, run_cons, List.append_assoc]
    exact (run_keyOrEnd m members _ _).trans
      (run_memberTokens h (List.cons_ne_nil _ _) [] stack rest)
termination_by sizeOf w
decreasing_by
  · have hlt := List.sizeOf_lt_of_mem ‹i ∈ item :: items›
    rw [array.sizeOf_spec]
    omega
  · have hlt := List.sizeOf_lt_of_mem ‹n ∈ m :: members›
    obtain ⟨key, item⟩ := n
    rw [Prod.mk.sizeOf_spec] at hlt
    rw [object.sizeOf_spec]
    dsimp only
    omega

/-- A text whose tokens are those of a tree is read as the tree. -/
lemma ofText?_of_lexes {text : List Char} {w : Written} (h : Lexes text w.tokens) :
    ofText? text = some w := by
  have htokens : tokens? text = some w.tokens := by
    have hread := h [] ends_nil
    rw [List.append_nil] at hread
    rw [tokens?, hread]
    simp [tokensAfter?]
  have hrun := reads_tokens w [] []
  rw [List.append_nil] at hrun
  rw [ofText?, htokens, Option.bind_some, hrun]
  rfl

end RecordAccess.Json.Written
