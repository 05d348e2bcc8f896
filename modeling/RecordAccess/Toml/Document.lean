import RecordAccess.OrderedMap
import RecordAccess.Toml.Scalar
/-!
# TOML Documents

The reading of a TOML document into the items of its outermost table. A key may be given once; a
table may be opened by one header, but tables that headers or dotted keys only pass through may be
opened or extended later.
-/

namespace RecordAccess.Toml

/-- How a table came to be. -/
inductive TableKind where
  /-- opened by a header -/
  | opened
  /-- passed through by a header -/
  | passed
  /-- made by a dotted key -/
  | dotted
  deriving DecidableEq

/-- What a key of a document stands for. Values that are only checked are not kept. -/
inductive Item where
  | text (value : String)
  | integer (value : Int)
  | boolean (value : Bool)
  /-- a floating-point number, a date, an array or a table on one line -/
  | other
  | table (kind : TableKind) (items : List (String × Item))
  /-- an array of tables, of which the last can be extended -/
  | tables (last : List (String × Item))

/-- The items of a table. -/
abbrev Items := List (String × Item)

/-- Whether a character may stand in a key without quotes. -/
def isKeyChar (c : Char) : Bool := c.isAlphanum || c = '_' || c = '-'

/-- The part of a key that starts a text, and what follows it. -/
def keyPart? : List Char → Option (String × List Char)
  | '"' :: rest => (basic? .nothing rest).map fun (cs, after) => (String.ofList cs, after)
  | '\'' :: rest => (literal? rest).map fun (cs, after) => (String.ofList cs, after)
  | cs =>
    let (name, after) := cs.span isKeyChar
    if name.isEmpty then none else some (String.ofList name, after)

/-- How many parts a key may have, and how many arrays and tables may enclose a value. -/
def deepest : Nat := 79

/-- The parts of the key that starts a text, `room` of them at most, and what follows it. -/
def keyPath? : (room : Nat) → List Char → Option (List String × List Char)
  | 0, _ => none
  | room + 1, cs => do
    let (part, rest) ← keyPart? (cs.dropWhile isGap)
    match rest.dropWhile isGap with
    | '.' :: more =>
      let (parts, after) ← keyPath? room more
      return (part :: parts, after)
    | after => return ([part], after)

/--
Put an item under a dotted key. Tables missing on the way are made. The way may pass tables that no
header has opened and the last tables of arrays, but the table that receives the item has to be one
that dotted keys have made.
-/
def insertDotted? (items : Items) (item : Item) : List String → Option Items
  | [] => none
  | [key] => if (Entries.get? key items).isSome then none else some (items ++ [(key, item)])
  | key :: path =>
    match Entries.get? key items with
    | none => (insertDotted? [] item path).map fun inner => items ++ [(key, .table .dotted inner)]
    | some (.table kind inner) =>
      if kind = .opened ∨ (kind = .passed ∧ path.length = 1) then none
      else
        (insertDotted? inner item path).map fun inner => Entries.put key (.table kind inner) items
    | some (.tables last) =>
      if path.length = 1 then none
      else (insertDotted? last item path).map fun inner => Entries.put key (.tables inner) items
    | some _ => none

/-- Change the table that a path of table names leads to, through the last tables of arrays. Tables
missing on the way are made. -/
def atTable? (change : Items → Option Items) (items : Items) : List String → Option Items
  | [] => change items
  | key :: path =>
    match Entries.get? key items with
    | none => (atTable? change [] path).map fun inner => items ++ [(key, .table .passed inner)]
    | some (.table kind inner) =>
      (atTable? change inner path).map fun inner => Entries.put key (.table kind inner) items
    | some (.tables last) =>
      (atTable? change last path).map fun inner => Entries.put key (.tables inner) items
    | some _ => none

/-- Open the table of a header among the items of its parent. -/
def openTable? (key : String) (items : Items) : Option Items :=
  match Entries.get? key items with
  | none => some (items ++ [(key, .table .opened [])])
  | some (.table .passed inner) => some (Entries.put key (.table .opened inner) items)
  | some _ => none

/-- Begin another table of an array of tables among the items of its parent. -/
def appendTable? (key : String) (items : Items) : Option Items :=
  match Entries.get? key items with
  | none => some (items ++ [(key, .tables [])])
  | some (.tables _) => some (Entries.put key (.tables []) items)
  | some _ => none

/-- The value that a word is. -/
def wordItem? (cs : List Char) : Option Item :=
  if cs = "true".toList then some (.boolean true)
  else if cs = "false".toList then some (.boolean false)
  else
    match integer? cs with
    | some n => some (.integer n)
    | none => if isDateTime cs || (float? cs).isSome then some .other else none

mutual

/-- The value that starts a text, and what follows it; `fuel` bounds the characters read, and `room`
the arrays and tables within each other. -/
def item? : (fuel room : Nat) → List Char → Option (Item × List Char)
  | 0, _, _ => none
  | fuel + 1, room, cs =>
    match cs with
    | '[' :: rest =>
      match room with
      | 0 => none
      | room + 1 =>
        (afterItems? fuel room (skipFiller false rest)).map fun after => (.other, after)
    | '\x7b' :: rest =>
      match room, rest.dropWhile isGap with
      | 0, _ => none
      | _, '\x7d' :: after => some (.other, after)
      | room + 1, rest => (afterMembers? fuel room [] rest).map fun after => (.other, after)
    | '"' :: _ | '\'' :: _ => (string? cs).map fun (s, after) => (.text (String.ofList s), after)
    | _ =>
      let (chars, after) := word cs
      (wordItem? chars).map fun item => (item, after)

/-- What follows the items of an array and its closing bracket. -/
def afterItems? : (fuel room : Nat) → List Char → Option (List Char)
  | 0, _, _ => none
  | fuel + 1, room, cs =>
    match cs with
    | ']' :: after => some after
    | _ => do
      let (_, rest) ← item? fuel room cs
      match skipFiller false rest with
      | ']' :: after => some after
      | ',' :: rest => afterItems? fuel room (skipFiller false rest)
      | _ => none

/-- What follows the members of a table on one line and its closing brace. -/
def afterMembers? : (fuel room : Nat) → Items → List Char → Option (List Char)
  | 0, _, _, _ => none
  | fuel + 1, room, items, cs => do
    let (path, rest) ← keyPath? deepest cs
    match rest with
    | '=' :: rest =>
      let (item, rest) ← item? fuel room (rest.dropWhile isGap)
      let items ← insertDotted? items item path
      match rest.dropWhile isGap with
      | '\x7d' :: after => some after
      | ',' :: rest => afterMembers? fuel room items (rest.dropWhile isGap)
      | _ => none
    | _ => none

end

/-- A document read in part: its items, and the path of the table that is open. -/
structure Progress where
  items : Items
  path : List String

/-- Read a header of one table or of a table in an array, after its opening bracket. -/
def header? (p : Progress) (cs : List Char) : Option (Progress × List Char) := do
  let (inArray, cs) := match cs with
    | '[' :: rest => (true, rest)
    | _ => (false, cs)
  let (path, rest) ← keyPath? deepest cs
  let key ← path.getLast?
  let change := if inArray then appendTable? key else openTable? key
  let items ← atTable? change p.items path.dropLast
  match inArray, rest with
  | true, ']' :: ']' :: after => some (⟨items, path⟩, after)
  | false, ']' :: after => some (⟨items, path⟩, after)
  | _, _ => none

/-- Read a key and its value. -/
def keyValue? (p : Progress) (cs : List Char) : Option (Progress × List Char) := do
  let (path, rest) ← keyPath? deepest cs
  match rest with
  | '=' :: rest =>
    let (item, after) ← item? (rest.length + 1) deepest (rest.dropWhile isGap)
    let items ← atTable? (fun inner => insertDotted? inner item path) p.items p.path
    return ({ p with items }, after)
  | _ => none

/-- Read the lines of a document, at most `fuel` of them. -/
def lines? (p : Progress) : (fuel : Nat) → List Char → Option Items
  | _, [] => some p.items
  | 0, _ => none
  | fuel + 1, cs =>
    match cs.dropWhile isGap with
    | [] => some p.items
    | c :: rest => do
      let (p, rest) ←
        if c = '[' then header? p rest
        else if c = '#' ∨ c = '\n' ∨ c = '\r' then some (p, c :: rest)
        else keyValue? p (c :: rest)
      lines? p fuel (← afterLine? rest)

/-- The items of a document's outermost table. A byte order mark may stand in front. -/
def ofText? (text : String) : Option Items :=
  let cs := match text.toList with
    | c :: rest => if c.toNat = 0xFEFF then rest else c :: rest
    | [] => []
  lines? ⟨[], []⟩ (cs.length + 1) cs

end RecordAccess.Toml
