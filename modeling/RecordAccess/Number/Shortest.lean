import RecordAccess.Number.Binary64
import RecordAccess.Number.Integer
/-!
# Shortest Decimal Texts

The text of a finite number is made of the fewest decimal digits that read back as the number. The
decimals that read back are those between the midpoints to the neighbouring numbers; the shortest
is a point of the coarsest decimal grid that has a point there, and of two such points the nearer.
How the digits are laid out is up to a `FloatFormat`.
-/

namespace RecordAccess

/-- The number `coefficient * 10 ^ exponent`. -/
structure Decimal where
  coefficient : Nat
  exponent : Int
  deriving DecidableEq, Inhabited

/-- Which of two equally near decimals is taken. -/
inductive Tie where
  /-- the one farther from zero -/
  | away
  /-- the one whose last digit is even -/
  | even
  deriving DecidableEq

/-- Numerators, over one common denominator, of a number and of the midpoints to its neighbours. -/
structure Neighbourhood where
  low : Nat
  value : Nat
  high : Nat
  /-- Whether the midpoints themselves read back as the number. -/
  closed : Bool

namespace Neighbourhood

/-- The neighbourhood of the number at a positive rank, in half units. -/
def ofRank (rank : Nat) : Neighbourhood where
  low := Binary64.magnitude (rank - 1) + Binary64.magnitude rank
  value := 2 * Binary64.magnitude rank
  high := Binary64.magnitude rank + Binary64.magnitude (rank + 1)
  closed := rank % 2 == 0

/-- Whether a point reads back as the number. -/
def holds (s : Neighbourhood) (point : Nat) : Bool :=
  if s.closed then decide (s.low ≤ point) && decide (point ≤ s.high)
  else decide (s.low < point) && decide (point < s.high)

/-- The same neighbourhood over a denominator `factor` times as large. -/
def scale (s : Neighbourhood) (factor : Nat) : Neighbourhood :=
  { s with low := s.low * factor, value := s.value * factor, high := s.high * factor }

/-- The multiple of `step` that reads back as the number and is nearest to it, if there is one. -/
def nearestOn (s : Neighbourhood) (tie : Tie) (step : Nat) : Option Nat :=
  let below := s.value / step
  let above := below + 1
  match s.holds (below * step), s.holds (above * step) with
  | false, false => none
  | true, false => some below
  | false, true => some above
  | true, true =>
    let toBelow := s.value - below * step
    let toAbove := above * step - s.value
    if toBelow < toAbove then some below
    else if toAbove < toBelow then some above
    else
      match tie with
      | .away => some above
      | .even => some (below + below % 2)

/-- The nearest point of the decimal grid of step `10 ^ exponent`. -/
def nearestAt (s : Neighbourhood) (tie : Tie) (exponent : Int) : Option Nat :=
  if 0 ≤ exponent then s.nearestOn tie (Nat.pow 10 exponent.toNat * (2 * Binary64.unitsPerOne))
  else (s.scale (Nat.pow 10 (-exponent).toNat)).nearestOn tie (2 * Binary64.unitsPerOne)

/-- The first hit on the grids from `exponent` down to finer ones, of which `grids` are tried. -/
def search (s : Neighbourhood) (tie : Tie) (exponent : Int) : Nat → Decimal
  | 0 => ⟨0, exponent⟩
  | grids + 1 =>
    match s.nearestAt tie exponent with
    | some coefficient => ⟨coefficient, exponent⟩
    | none => s.search tie (exponent - 1) grids

end Neighbourhood

/--
The shortest decimal that reads back as the number of a positive rank. No number reaches `10 ^ 310`,
and each is a point of the grid of step `10 ^ (-1074)`.
-/
def shortestDecimal (tie : Tie) (rank : Nat) : Decimal :=
  (Neighbourhood.ofRank rank).search tie 310 1385

/-- How the digits of a number are laid out as text. -/
structure FloatFormat where
  tie : Tie
  /-- Whether a number whose first digit stands for `10 ^ e` is written without an exponent. -/
  positional : Int → Bool
  /-- Whether a number without a fraction gets the ending `.0`. -/
  pointZero : Bool
  /-- Whether a positive exponent has a plus sign. -/
  plusSign : Bool
  nan : String
  infinity : String

namespace FloatFormat

/-- The digits of a decimal written without an exponent. -/
def plainText (format : FloatFormat) (digits : List Char) (exponent : Int) : String :=
  if 0 ≤ exponent then
    String.ofList (digits ++ List.replicate exponent.toNat '0')
      ++ (if format.pointZero then ".0" else "")
  else
    let places := (-exponent).toNat
    let padded := List.replicate (places + 1 - digits.length) '0' ++ digits
    let whole := padded.length - places
    String.ofList (padded.take whole) ++ "." ++ String.ofList (padded.drop whole)

/-- The digits of a decimal written with one digit before the point and an exponent. -/
def scientificText (format : FloatFormat) (digits : List Char) (leading : Int) : String :=
  let fraction := digits.drop 1
  String.ofList (digits.take 1)
    ++ (if fraction.isEmpty then "" else "." ++ String.ofList fraction)
    ++ "e" ++ (if format.plusSign && decide (0 ≤ leading) then "+" else "")
    ++ integerText leading

/-- The text of a positive decimal without trailing zeros in its coefficient. -/
def decimalText (format : FloatFormat) (d : Decimal) : String :=
  let digits := Nat.toDigits 10 d.coefficient
  let leading := d.exponent + digits.length - 1
  if format.positional leading then format.plainText digits d.exponent
  else format.scientificText digits leading

/-- The text of a number. -/
def text (format : FloatFormat) : Binary64 → String
  | .nan => format.nan
  | .infinite negative => (if negative then "-" else "") ++ format.infinity
  | .finite negative rank =>
    (if negative then "-" else "") ++
      (if rank.val = 0 then format.plainText ['0'] 0
       else format.decimalText (shortestDecimal format.tie rank))

end FloatFormat
end RecordAccess
