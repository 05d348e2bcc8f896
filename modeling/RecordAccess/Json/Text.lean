import RecordAccess.Json.Basic
import RecordAccess.Number.Shortest
/-!
# JSON Text

Two texts of a JSON value: the compact one without any space, and the laid out one with a member or
item to a line, indented by tabs. Line feeds occur in the laid out text only between its lines,
never within a string.
-/

namespace RecordAccess.Json

/--
Numbers have as many digits as it takes to read them back, and always a point or an exponent; an
exponent stands where the first digit is beyond the sixteenth place before or the fifth after the
point.
-/
def floatFormat : FloatFormat where
  tie := .even
  positional e := decide (-5 ≤ e) && decide (e ≤ 15)
  pointZero := true
  plusSign := true
  nan := "null"
  infinity := "null"

/-- The text of a number; one that is not finite is written as null. -/
def floatText (x : Binary64) : String :=
  if x.isFinite then floatFormat.text x else "null"

/-- The lowercase hexadecimal digit of a number below sixteen. -/
def hexDigit (n : Nat) : Char := if n < 10 then Char.ofNat (48 + n) else Char.ofNat (87 + n)

/-- A character as it stands within a string. -/
def escapeChar (c : Char) : List Char :=
  if c = '"' then ['\\', '"']
  else if c = '\\' then ['\\', '\\']
  else if c.toNat = 8 then ['\\', 'b']
  else if c.toNat = 12 then ['\\', 'f']
  else if c = '\n' then ['\\', 'n']
  else if c = '\r' then ['\\', 'r']
  else if c = '\t' then ['\\', 't']
  else if c.toNat < 0x20 then
    ['\\', 'u', '0', '0', hexDigit (c.toNat / 16), hexDigit (c.toNat % 16)]
  else [c]

/-- A string between quotes. -/
def quote (text : String) : List Char := '"' :: (text.toList.flatMap escapeChar ++ ['"'])

/-- The text of a value that holds no other values. -/
def scalarChars : Json → List Char
  | bool true => "true".toList
  | bool false => "false".toList
  | int n => (integerText n).toList
  | float x => (floatText x).toList
  | string text => quote text
  | _ => "null".toList

mutual

/-- The compact text of a value. -/
def compactChars : Json → List Char
  | array items => '[' :: (compactItems items ++ [']'])
  | object members => '{' :: (compactMembers members ++ ['}'])
  | value => scalarChars value

/-- The items of an array, parted by commas. -/
def compactItems : List Json → List Char
  | [] => []
  | [item] => compactChars item
  | item :: rest => compactChars item ++ ',' :: compactItems rest

/-- The members of an object, parted by commas. -/
def compactMembers : List (String × Json) → List Char
  | [] => []
  | [(key, value)] => quote key ++ ':' :: compactChars value
  | (key, value) :: rest => quote key ++ ':' :: (compactChars value ++ ',' :: compactMembers rest)

end

/-- The compact text of a value. -/
def compact (value : Json) : String := String.ofList (compactChars value)

/-- The beginning of a line `depth` tabs deep, after the end of the line before. -/
def lineStart (depth : Nat) : List Char := '\n' :: List.replicate depth '\t'

mutual

/-- The laid out text of a value whose first line stands `depth` tabs deep. -/
def layoutChars (depth : Nat) : Json → List Char
  | array [] => ['[', ']']
  | array items => '[' :: (layoutItems (depth + 1) items ++ (lineStart depth ++ [']']))
  | object [] => ['{', '}']
  | object members => '{' :: (layoutMembers (depth + 1) members ++ (lineStart depth ++ ['}']))
  | value => scalarChars value

/-- The items of an array, each on lines of its own. -/
def layoutItems (depth : Nat) : List Json → List Char
  | [] => []
  | [item] => lineStart depth ++ layoutChars depth item
  | item :: rest => lineStart depth ++ (layoutChars depth item ++ ',' :: layoutItems depth rest)

/-- The members of an object, each on lines of its own. -/
def layoutMembers (depth : Nat) : List (String × Json) → List Char
  | [] => []
  | [(key, value)] => lineStart depth ++ (quote key ++ ':' :: ' ' :: layoutChars depth value)
  | (key, value) :: rest =>
    lineStart depth
      ++ (quote key ++ ':' :: ' ' :: (layoutChars depth value ++ ',' :: layoutMembers depth rest))

end

/--
The laid out text of a value that stands `indent` tabs deep in an enclosing text. Its first line has
no tabs in front, so that it can follow a key.
-/
def toText (value : Json) (indent : Nat) : String := String.ofList (layoutChars indent value)

end RecordAccess.Json
