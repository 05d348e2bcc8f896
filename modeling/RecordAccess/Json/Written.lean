import RecordAccess.Json.Token
/-!
# Written JSON

The tree of a JSON text as it is written: members in the order of the text with equal keys kept,
strings and numerals not yet interpreted. It is built from the tokens by one pass that keeps the
unfinished containers on a stack.
-/

namespace RecordAccess.Json

/-- A JSON value as written. -/
inductive Written where
  | null
  | bool (value : Bool)
  | number (numeral : Numeral)
  | string (pieces : List Piece)
  | array (items : List Written)
  | object (members : List (List Piece × Written))

namespace Written

/-- An unfinished container, with what it holds so far, latest first. -/
inductive Frame where
  | array (items : List Written)
  | object (members : List (List Piece × Written))
  /-- an object whose latest key still waits for its value -/
  | member (members : List (List Piece × Written)) (key : List Piece)

/-- What the next token has to be. -/
inductive Due where
  | value
  | itemOrEnd
  | keyOrEnd
  | key
  | colon
  | commaOrEnd
  /-- nothing: the value is finished -/
  | nothing (value : Written)

/-- A text read in part. -/
structure Progress where
  due : Due
  stack : List Frame

/-- The progress once a value is finished. -/
def finish (value : Written) : List Frame → Option Progress
  | [] => some ⟨.nothing value, []⟩
  | .array items :: stack => some ⟨.commaOrEnd, .array (value :: items) :: stack⟩
  | .member members key :: stack => some ⟨.commaOrEnd, .object ((key, value) :: members) :: stack⟩
  | .object _ :: _ => none

/-- The progress once a token that begins a value is read. -/
def beginValue (stack : List Frame) : Token → Option Progress
  | .openArray => some ⟨.itemOrEnd, .array [] :: stack⟩
  | .openObject => some ⟨.keyOrEnd, .object [] :: stack⟩
  | .null => finish .null stack
  | .bool value => finish (.bool value) stack
  | .number numeral => finish (.number numeral) stack
  | .string pieces => finish (.string pieces) stack
  | _ => none

/-- The progress once the innermost container ends. -/
def endContainer : Token → List Frame → Option Progress
  | .closeArray, .array items :: stack => finish (.array items.reverse) stack
  | .closeObject, .object members :: stack => finish (.object members.reverse) stack
  | _, _ => none

/-- The progress once a key is read. -/
def beginMember : Token → List Frame → Option Progress
  | .string pieces, .object members :: stack => some ⟨.colon, .member members pieces :: stack⟩
  | _, _ => none

/-- Read one token. -/
def step (p : Progress) (token : Token) : Option Progress :=
  match p.due with
  | .value => beginValue p.stack token
  | .itemOrEnd =>
    if token = .closeArray then endContainer token p.stack else beginValue p.stack token
  | .keyOrEnd =>
    if token = .closeObject then endContainer token p.stack else beginMember token p.stack
  | .key => beginMember token p.stack
  | .colon => if token = .colon then some ⟨.value, p.stack⟩ else none
  | .commaOrEnd =>
    if token = .comma then
      match p.stack with
      | .array _ :: _ => some ⟨.value, p.stack⟩
      | .object _ :: _ => some ⟨.key, p.stack⟩
      | _ => none
    else endContainer token p.stack
  | .nothing _ => none

/-- Read some tokens. -/
def run (p : Progress) : List Token → Option Progress
  | [] => some p
  | token :: rest =>
    match step p token with
    | some next => run next rest
    | none => none

/-- The value of a whole text. -/
def ofText? (text : List Char) : Option Written :=
  match (tokens? text).bind (run ⟨.value, []⟩) with
  | some ⟨.nothing value, []⟩ => some value
  | _ => none

end Written
end RecordAccess.Json
