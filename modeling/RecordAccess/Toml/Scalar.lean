import RecordAccess.Json.Token
import RecordAccess.Number.Reading
/-!
# TOML Scalars

The strings, numbers, truth values and dates of a TOML document, and the space between them.
-/

namespace RecordAccess.Toml

/-- Whether a character is a space or a tab. -/
def isGap (c : Char) : Bool := c = ' ' || c = '\t'

/-- Whether a character may stand in a comment or string: no control character but the tab. -/
def isContent (c : Char) : Bool := c = '\t' || (decide (0x20 ≤ c.toNat) && c.toNat != 0x7F)

/-- What follows a line end. -/
def afterLineEnd? : List Char → Option (List Char)
  | '\n' :: rest => some rest
  | '\r' :: '\n' :: rest => some rest
  | _ => none

/-- What follows spaces, tabs and a comment, up to the end of the line. -/
def afterComment (cs : List Char) : List Char :=
  match cs.dropWhile isGap with
  | '#' :: rest => rest.dropWhile isContent
  | rest => rest

/-- What follows the rest of a line that holds nothing more. -/
def afterLine? (cs : List Char) : Option (List Char) :=
  match afterComment cs with
  | [] => some []
  | rest => afterLineEnd? rest

/-- What follows spaces, line ends and comments. -/
def skipFiller (comment : Bool) : List Char → List Char
  | [] => []
  | '\n' :: rest => skipFiller false rest
  | '\r' :: '\n' :: rest => skipFiller false rest
  | c :: rest =>
    if comment then
      if isContent c then skipFiller true rest else c :: rest
    else if isGap c then skipFiller false rest
    else if c = '#' then skipFiller true rest
    else c :: rest

/-- The character of a code point; surrogates and numbers beyond the last have none. -/
def codePoint? (n : Nat) : Option Char :=
  if h : n.isValidChar then some (Char.ofNatAux n h) else none

/-- The character of exactly `due` more hexadecimal digits, and what follows them. -/
def hexEscape? (value : Nat) : (due : Nat) → List Char → Option (Char × List Char)
  | 0, rest => (codePoint? value).map fun c => (c, rest)
  | _ + 1, [] => none
  | due + 1, c :: rest =>
    match Json.hexValue? c with
    | some d => hexEscape? (value * 16 + d) due rest
    | none => none

/-- What part of a string's escape the characters read so far have left unfinished. -/
inductive Escape where
  | nothing
  | backslash
  /-- hexadecimal digits: their value so far and how many are due -/
  | digits (value due : Nat)
  /-- blanks after a backslash that have to end the line -/
  | lineEnd
  /-- blanks and line ends after a backslash at the end of a line -/
  | filler

/-- What a character after a backslash stands for. -/
def escapeOf? (multiline : Bool) (c : Char) : Option (List Char × Escape) :=
  if c = 'u' then some ([], .digits 0 4)
  else if c = 'U' then some ([], .digits 0 8)
  else if multiline && isGap c then some ([], .lineEnd)
  else if multiline && c = '\n' then some ([], .filler)
  else if c = '/' then none
  else (Json.escaped? c).map fun e => ([e], .nothing)

/-- What a character within an escape stands for, and what is then unfinished. -/
def stepEscape? (multiline : Bool) (c : Char) : Escape → Option (List Char × Escape)
  | .nothing => if isContent c then some ([c], .nothing) else none
  | .backslash => escapeOf? multiline c
  | .digits value due =>
    match Json.hexValue? c with
    | none => none
    | some d =>
      if due ≤ 1 then (codePoint? (value * 16 + d)).map fun u => ([u], .nothing)
      else some ([], .digits (value * 16 + d) (due - 1))
  | .lineEnd =>
    if isGap c then some ([], .lineEnd) else if c = '\n' then some ([], .filler) else none
  | .filler =>
    if isGap c || c = '\n' then some ([], .filler)
    else if isContent c then some ([c], .nothing)
    else none

/-- The content of a string in double quotes after its opening quote, and what follows it. -/
def basic? (escape : Escape) : List Char → Option (List Char × List Char)
  | [] => none
  | c :: rest =>
    match escape with
    | .nothing =>
      if c = '"' then some ([], rest)
      else if c = '\\' then basic? .backslash rest
      else if isContent c then (basic? .nothing rest).map fun (cs, after) => (c :: cs, after)
      else none
    | _ =>
      match stepEscape? false c escape with
      | some (chars, next) => (basic? next rest).map fun (cs, after) => (chars ++ cs, after)
      | none => none

/-- The content of a string in single quotes after its opening quote, and what follows it. -/
def literal? : List Char → Option (List Char × List Char)
  | [] => none
  | c :: rest =>
    if c = '\'' then some ([], rest)
    else if isContent c then (literal? rest).map fun (cs, after) => (c :: cs, after)
    else none

/-- The end of a multi-line string: three quotes, of up to five the last three. -/
def closing? (quote : Char) : List Char → Option (List Char × List Char)
  | a :: b :: c :: rest =>
    if a = quote ∧ b = quote ∧ c = quote then
      match rest with
      | d :: e :: after =>
        if d = quote ∧ e = quote then some ([quote, quote], after)
        else if d = quote then some ([quote], e :: after)
        else some ([], rest)
      | [d] => if d = quote then some ([quote], []) else some ([], [d])
      | [] => some ([], [])
    else none
  | _ => none

/-- The content of a multi-line string after its opening quotes, and what follows it. -/
def multiline? (quote : Char) (escape : Escape) : List Char → Option (List Char × List Char)
  | [] => none
  | '\r' :: '\n' :: rest =>
    match escape with
    | .nothing => (multiline? quote .nothing rest).map fun (cs, after) => ('\n' :: cs, after)
    | .digits _ _ => none
    | _ => multiline? quote .filler rest
  | c :: rest =>
    match escape with
    | .nothing =>
      match closing? quote (c :: rest) with
      | some found => some found
      | none =>
        if quote = '"' ∧ c = '\\' then multiline? quote .backslash rest
        else if isContent c || c = '\n' then
          (multiline? quote .nothing rest).map fun (cs, after) => (c :: cs, after)
        else none
    | .filler =>
      match closing? quote (c :: rest) with
      | some found => some found
      | none =>
        if c = '\\' then multiline? quote .backslash rest
        else
          match stepEscape? true c .filler with
          | some (chars, next) =>
            (multiline? quote next rest).map fun (cs, after) => (chars ++ cs, after)
          | none => none
    | _ =>
      match stepEscape? true c escape with
      | some (chars, next) =>
        (multiline? quote next rest).map fun (cs, after) => (chars ++ cs, after)
      | none => none

/-- The text without a line end at its start. -/
def withoutFirstLineEnd (cs : List Char) : List Char := (afterLineEnd? cs).getD cs

/-- The string that starts a text, of any of the four kinds, and what follows it. -/
def string? : List Char → Option (List Char × List Char)
  | '"' :: '"' :: '"' :: rest => multiline? '"' .nothing (withoutFirstLineEnd rest)
  | '\'' :: '\'' :: '\'' :: rest => multiline? '\'' .nothing (withoutFirstLineEnd rest)
  | '"' :: rest => basic? .nothing rest
  | '\'' :: rest => literal? rest
  | _ => none

/-- The digits of a text in which single underscores may part them. -/
def plainDigits? (isDigit : Char → Bool) : List Char → Option (List Char)
  | [] => none
  | [c] => if isDigit c then some [c] else none
  | c :: '_' :: rest =>
    if isDigit c then (plainDigits? isDigit rest).map fun cs => c :: cs else none
  | c :: d :: rest =>
    if isDigit c then (plainDigits? isDigit (d :: rest)).map fun cs => c :: cs else none

/-- The number that digits of a base denote. -/
def radixValue (base : Nat) (digits : List Char) : Nat :=
  digits.foldl (fun n c => n * base + (Json.hexValue? c).getD 0) 0

/-- The integer that a word with a radix mark denotes. -/
def radixInteger? (base : Nat) (digits : List Char) : Option Int :=
  let isDigit (c : Char) : Bool := (Json.hexValue? c).any fun d => decide (d < base)
  (plainDigits? isDigit digits).map fun ds => (radixValue base ds : Int)

/-- Decimal digits without a needless zero in front. -/
def decimalDigits? (word : List Char) : Option (List Char) :=
  match plainDigits? Char.isDigit word with
  | some ('0' :: _ :: _) => none
  | digits => digits

/-- The integer of 64 bits that a word denotes. -/
def integer? (word : List Char) : Option Int :=
  let value : Option Int := match word with
    | '0' :: 'x' :: digits => radixInteger? 16 digits
    | '0' :: 'o' :: digits => radixInteger? 8 digits
    | '0' :: 'b' :: digits => radixInteger? 2 digits
    | _ =>
      let (negative, digits) := Binary64.splitSign word
      (decimalDigits? digits).map fun ds =>
        let n : Int := (ds.foldl (fun n c => n * 10 + (c.toNat - 48)) 0 : Nat)
        if negative then -n else n
  value.filter fun n => decide (-0x8000000000000000 ≤ n) && decide (n < 0x8000000000000000)

/-- The floating-point number that a word denotes; none above the largest is admitted. -/
def float? (word : List Char) : Option Binary64 :=
  let (negative, body) := Binary64.splitSign word
  if body = "inf".toList then some (.infinite negative)
  else if body = "nan".toList then some .nan
  else do
    let isMark (c : Char) : Bool := c = '.' || c = 'e' || c = 'E'
    let (whole, rest) := body.span fun c => !isMark c
    let whole ← decimalDigits? whole
    let (fraction, rest) ← match rest with
      | '.' :: rest =>
        let (fraction, rest) := rest.span fun c => !isMark c
        (plainDigits? Char.isDigit fraction).map fun ds => (ds, rest)
      | _ => some ([], rest)
    let exponent : Int ← match rest with
      | [] => if fraction.isEmpty then none else some 0
      | '.' :: _ => none
      | _ :: rest =>
        let (negative, digits) := Binary64.splitSign rest
        ((plainDigits? Char.isDigit digits).bind natural?).map fun n =>
          if negative then -(n : Int) else n
    let coefficient ← natural? (whole ++ fraction)
    let x := Binary64.ofDecimal negative coefficient (exponent - fraction.length)
    if x = .infinite false then none else some x

/-- The number of exactly `count` digits, and what follows them. -/
def fixedDigits? (count : Nat) (cs : List Char) : Option (Nat × List Char) :=
  let digits := cs.take count
  if digits.length = count then (natural? digits).map fun n => (n, cs.drop count) else none

/-- The number of two digits after a mark, and what follows it. -/
def twoAfter? (mark : Char) : List Char → Option (Nat × List Char)
  | c :: rest => if c = mark then fixedDigits? 2 rest else none
  | [] => none

/-- The days of a month. -/
def daysIn (year month : Nat) : Nat :=
  if month = 2 then
    if year % 4 = 0 ∧ (year % 100 ≠ 0 ∨ year % 400 = 0) then 29 else 28
  else if month = 4 ∨ month = 6 ∨ month = 9 ∨ month = 11 then 30
  else 31

/-- What follows a date. -/
def afterDate? (cs : List Char) : Option (List Char) := do
  let (year, rest) ← fixedDigits? 4 cs
  let (month, rest) ← twoAfter? '-' rest
  let (day, rest) ← twoAfter? '-' rest
  if 1 ≤ month ∧ month ≤ 12 ∧ 1 ≤ day ∧ day ≤ daysIn year month then some rest else none

/-- What follows a time of day. -/
def afterTime? (cs : List Char) : Option (List Char) := do
  let (hour, rest) ← fixedDigits? 2 cs
  let (minute, rest) ← twoAfter? ':' rest
  let (second, rest) ← twoAfter? ':' rest
  if hour ≤ 23 ∧ minute ≤ 59 ∧ second ≤ 60 then
    match rest with
    | '.' :: fraction =>
      if (fraction.takeWhile Char.isDigit).isEmpty then none
      else some (fraction.dropWhile Char.isDigit)
    | _ => some rest
  else none

/-- Whether a text is a distance from universal time, or empty. -/
def isOffset : List Char → Bool
  | [] => true
  | ['Z'] => true
  | ['z'] => true
  | sign :: rest =>
    (sign = '+' || sign = '-') &&
      match fixedDigits? 2 rest with
      | some (hour, rest) =>
        decide (hour ≤ 23) &&
          match twoAfter? ':' rest with
          | some (minute, []) => decide (minute ≤ 59)
          | _ => false
      | none => false

/-- Whether a word is a date, a time, or both. -/
def isDateTime (word : List Char) : Bool :=
  match afterDate? word with
  | some [] => true
  | some (mark :: rest) =>
    (mark = 'T' || mark = 't' || mark = ' ') && (afterTime? rest).any isOffset
  | none => afterTime? word == some []

/-- The characters that a number, truth value or date may consist of. -/
def isWordChar (c : Char) : Bool :=
  c.isAlphanum || c = '_' || c = '+' || c = '-' || c = '.' || c = ':'

/-- The word that starts a text and what follows it. A date and a time parted by one space are one
word. -/
def word (cs : List Char) : List Char × List Char :=
  let (first, rest) := cs.span isWordChar
  match rest with
  | ' ' :: more =>
    let (second, after) := more.span isWordChar
    if afterDate? first = some [] ∧ isDateTime (first ++ ' ' :: second) then
      (first ++ ' ' :: second, after)
    else (first, rest)
  | _ => (first, rest)

end RecordAccess.Toml
