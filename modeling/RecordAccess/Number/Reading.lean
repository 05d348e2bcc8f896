import RecordAccess.Number.Binary64
import RecordAccess.Number.Integer
/-!
# Reading Floating-Point Numbers

The decimal texts that denote floating-point numbers: digits with an optional point and exponent,
and the names of infinity and of "not a number" in any letter case, each after an optional sign. The
result is the nearest number, which is infinite for texts beyond the largest.
-/

namespace RecordAccess

namespace Binary64

/-- The sign of a text and what follows it. -/
def splitSign : List Char → Bool × List Char
  | '-' :: rest => (true, rest)
  | '+' :: rest => (false, rest)
  | cs => (false, cs)

/-- The exponent that ends a text, zero if it is empty. -/
def exponentText? : List Char → Option Int
  | [] => some 0
  | e :: rest =>
    if e = 'e' ∨ e = 'E' then
      let (negative, digits) := splitSign rest
      (natural? digits).map fun n => if negative then -(n : Int) else n
    else none

/-- The digits after a point, if a point follows, and what follows them. -/
def fractionDigits : List Char → List Char × List Char
  | '.' :: rest => rest.span Char.isDigit
  | cs => ([], cs)

/-- The number of a text without a sign. At least one digit stands before or after the point. -/
def unsignedText? (negative : Bool) (cs : List Char) : Option Binary64 :=
  let (whole, rest) := cs.span Char.isDigit
  let (fraction, rest) := fractionDigits rest
  match natural? (whole ++ fraction), exponentText? rest with
  | some coefficient, some exponent =>
    some (ofDecimal negative coefficient (exponent - fraction.length))
  | _, _ => none

/-- The number that a text denotes. -/
def ofText? (cs : List Char) : Option Binary64 :=
  let (negative, body) := splitSign cs
  let lowered := body.map Char.toLower
  if lowered = "inf".toList ∨ lowered = "infinity".toList then some (infinite negative)
  else if lowered = "nan".toList then some nan
  else unsignedText? negative body

end Binary64
end RecordAccess
