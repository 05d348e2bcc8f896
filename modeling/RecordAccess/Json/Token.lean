import RecordAccess.Number.Integer
/-!
# JSON Tokens

The tokens of a JSON text. Reading them needs one pass over the characters: a string is read piece
by piece, and everything else that is neither space nor punctuation is a word, which has to be a
literal or a numeral. Escaped code units and digits are kept as written, since whether they denote
anything depends on whether the value is used.
-/

namespace RecordAccess.Json

/-- A piece of a string: a character that stands for itself, or an escaped UTF-16 code unit. -/
inductive Piece where
  | char (c : Char)
  | unit (n : Nat)
  deriving DecidableEq

/-- A number as written. -/
structure Numeral where
  negative : Bool
  /-- The digits before the point. -/
  whole : List Nat
  /-- The digits after the point, if there is one. -/
  fraction : Option (List Nat)
  exponent : Option Int
  deriving DecidableEq

/-- A token of a JSON text. -/
inductive Token where
  | openArray
  | closeArray
  | openObject
  | closeObject
  | colon
  | comma
  | null
  | bool (value : Bool)
  | number (numeral : Numeral)
  | string (pieces : List Piece)
  deriving DecidableEq

namespace Numeral

/-- The leading digits of a text and what follows them. -/
def digits : List Char → List Nat × List Char
  | [] => ([], [])
  | c :: rest =>
    match digit? c with
    | some d =>
      let (ds, after) := digits rest
      (d :: ds, after)
    | none => ([], c :: rest)

/-- The digits before the point: no zero stands in front of another digit. -/
def whole? (cs : List Char) : Option (List Nat × List Char) :=
  match digits cs with
  | ([], _) => none
  | ([0], after) => some ([0], after)
  | (0 :: _ :: _, _) => none
  | (ds, after) => some (ds, after)

/-- The digits after a point, at least one, if a point follows. -/
def fraction? : List Char → Option (Option (List Nat) × List Char)
  | '.' :: rest =>
    match digits rest with
    | ([], _) => none
    | (ds, after) => some (some ds, after)
  | cs => some (none, cs)

/-- The number that digits denote. -/
def valueOf (ds : List Nat) : Nat := ds.foldl (fun n d => n * 10 + d) 0

/-- The exponent that ends a numeral, if there is one. -/
def exponent? : List Char → Option (Option Int)
  | [] => some none
  | e :: rest =>
    if e = 'e' ∨ e = 'E' then
      let (negative, body) :=
        match rest with
        | '-' :: body => (true, body)
        | '+' :: body => (false, body)
        | body => (false, body)
      match digits body with
      | ([], _) => none
      | (ds, []) => some (some (if negative then -(valueOf ds : Int) else valueOf ds))
      | (_, _ :: _) => none
    else none

/-- The numeral that a word is. -/
def ofChars? (word : List Char) : Option Numeral := do
  let (negative, body) :=
    match word with
    | '-' :: body => (true, body)
    | body => (false, body)
  let (whole, rest) ← whole? body
  let (fraction, rest) ← fraction? rest
  let exponent ← exponent? rest
  return ⟨negative, whole, fraction, exponent⟩

end Numeral

/-- What part of a token the characters read so far have left unfinished. -/
inductive Unfinished where
  | nothing
  /-- a word, latest character first -/
  | word (chars : List Char)
  /-- a string, latest piece first -/
  | string (pieces : List Piece)
  /-- a string after a backslash -/
  | escape (pieces : List Piece)
  /-- a string within an escaped code unit: its value so far and the digits still due -/
  | unit (pieces : List Piece) (value due : Nat)
  deriving DecidableEq

/-- The space characters between tokens. -/
def isSpace (c : Char) : Bool := c = ' ' || c = '\n' || c = '\r' || c = '\t'

/-- The token that a punctuation character is. -/
def punctuation? (c : Char) : Option Token :=
  if c = '[' then some .openArray
  else if c = ']' then some .closeArray
  else if c = '{' then some .openObject
  else if c = '}' then some .closeObject
  else if c = ':' then some .colon
  else if c = ',' then some .comma
  else none

/-- The token that a word is. -/
def wordToken? (word : List Char) : Option Token :=
  if word = "null".toList then some .null
  else if word = "true".toList then some (.bool true)
  else if word = "false".toList then some (.bool false)
  else (Numeral.ofChars? word).map .number

/-- The value of a hexadecimal digit. -/
def hexValue? (c : Char) : Option Nat :=
  let n := c.toNat
  if 48 ≤ n ∧ n ≤ 57 then some (n - 48)
  else if 97 ≤ n ∧ n ≤ 102 then some (n - 87)
  else if 65 ≤ n ∧ n ≤ 70 then some (n - 55)
  else none

/-- The character that an escape of one letter stands for. -/
def escaped? (c : Char) : Option Char :=
  if c = '"' ∨ c = '\\' ∨ c = '/' then some c
  else if c = 'b' then some (Char.ofNat 8)
  else if c = 'f' then some (Char.ofNat 12)
  else if c = 'n' then some '\n'
  else if c = 'r' then some '\r'
  else if c = 't' then some '\t'
  else none

/-- What a character outside a string gives: a finished token, if any, and what it begins. -/
def between (c : Char) : Option Token × Unfinished :=
  if isSpace c then (none, .nothing)
  else
    match punctuation? c with
    | some token => (some token, .nothing)
    | none => if c = '"' then (none, .string []) else (none, .word [c])

/-- Whether a character ends a word. -/
def endsWord (c : Char) : Bool := isSpace c || (punctuation? c).isSome || c = '"'

/-- The tokens finished by one more character, and what is then unfinished. -/
def read (c : Char) : Unfinished → Option (List Token × Unfinished)
  | .nothing =>
    let (token, next) := between c
    some (token.toList, next)
  | .word chars =>
    if endsWord c then
      (wordToken? chars.reverse).map fun word =>
        let (token, next) := between c
        (word :: token.toList, next)
    else some ([], .word (c :: chars))
  | .string pieces =>
    if c = '"' then some ([.string pieces.reverse], .nothing)
    else if c = '\\' then some ([], .escape pieces)
    else if c.toNat < 0x20 then none
    else some ([], .string (.char c :: pieces))
  | .escape pieces =>
    if c = 'u' then some ([], .unit pieces 0 4)
    else (escaped? c).map fun e => ([], .string (.char e :: pieces))
  | .unit pieces value due =>
    (hexValue? c).map fun d =>
      let value := value * 16 + d
      if due ≤ 1 then ([], .string (.unit value :: pieces)) else ([], .unit pieces value (due - 1))

/-- The tokens of the characters that follow an unfinished token. -/
def tokensAfter? (unfinished : Unfinished) : List Char → Option (List Token)
  | [] =>
    match unfinished with
    | .nothing => some []
    | .word chars => (wordToken? chars.reverse).map fun word => [word]
    | _ => none
  | c :: rest =>
    match read c unfinished with
    | none => none
    | some (tokens, next) => (tokensAfter? next rest).map fun later => tokens ++ later

/-- The tokens of a JSON text. -/
def tokens? (text : List Char) : Option (List Token) := tokensAfter? .nothing text

end RecordAccess.Json
