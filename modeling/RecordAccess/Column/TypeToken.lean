import RecordAccess.Number.Integer
import RecordAccess.Text.Blank
import RecordAccess.Text.Lowercase
import RecordAccess.Text.Parts
/-!
# Type Tokens

The reading of a declared type: words, with at most one list of numbers in parentheses among them.
-/

namespace RecordAccess

/-- A declared type taken apart. -/
structure TypeToken where
  /-- The lowercase words that name the type, parted by single spaces. -/
  base : String
  /-- The numbers in parentheses. -/
  args : List Nat
  /-- Whether one of the words is `unsigned`. -/
  unsigned : Bool
  deriving DecidableEq, Inhabited

namespace TypeToken

/-- Whether a character is a parenthesis. -/
def isParenthesis (c : Char) : Bool := c = '(' || c = ')'

/-- A declared type cut at its parentheses: the text before, the text within if there are any, and
the text after. Any other arrangement of parentheses is none of a type. -/
def cut? (text : List Char) : Option (List Char × Option (List Char) × List Char) :=
  let (before, rest) := text.span fun c => !isParenthesis c
  match rest with
  | [] => some (before, none, [])
  | '(' :: rest =>
    let (within, rest) := rest.span fun c => !isParenthesis c
    match rest with
    | ')' :: after => if after.any isParenthesis then none else some (before, some within, after)
    | _ => none
  | _ => none

/-- The numbers of a list of which all have to read. -/
def numbers? : List (List Char) → Option (List Nat)
  | [] => some []
  | part :: rest => do
    let n ← unsigned64? (trimChars part)
    let ns ← numbers? rest
    return n :: ns

/-- The token of a declared type. -/
def ofText? (text : String) : Option TypeToken := do
  let (before, within, after) ← cut? text.toList
  let args ← match within with
    | some list => numbers? (splitAt ',' list)
    | none => some []
  let names := (words before ++ words after).map fun w => lowercase (String.ofList w)
  return {
    base := joinTexts " " (names.filter fun w => w != "unsigned" && w != "zerofill")
    args
    unsigned := names.any fun w => w == "unsigned" }

end TypeToken
end RecordAccess
