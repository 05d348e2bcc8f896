/-!
# Binary64 Numbers

The floating-point numbers of sixty-four bits as data. A finite number is a sign and a *rank*, its
place among the non-negative numbers counted from zero, so that two neighbouring numbers have
neighbouring ranks. All magnitudes are whole multiples of one unit, 2⁻¹⁰⁷⁴, and every operation is
an exact computation on units followed by one rounding to the nearest rank.
-/

namespace RecordAccess

/-- A floating-point number. All quiet and signalling forms of "not a number" are one value. -/
inductive Binary64 where
  | nan
  | infinite (negative : Bool)
  | finite (negative : Bool) (rank : Fin 0x7FF0000000000000)
  deriving DecidableEq, Inhabited

namespace Binary64

/-- The number of non-negative finite numbers, which is the rank that infinity would have. -/
def rankCount : Nat := 0x7FF0000000000000

/-- Units of 2⁻¹⁰⁷⁴ in the number one. -/
def unitsPerOne : Nat := 1 <<< 1074

/-- The number of ranks in a binade, the numbers from one power of two up to the next: 2⁵². -/
def binade : Nat := 0x10000000000000

/--
The magnitude at a rank, in units. The first 2⁵³ ranks stand one unit apart; after each further
2⁵² ranks the distance doubles.
-/
def magnitude (rank : Nat) : Nat :=
  if rank < binade then rank
  else (binade + rank % binade) <<< (rank / binade - 1)

/--
The rank nearest to `num / den` units; of two equally near ranks, the even one. The result may be
`rankCount` or more, which stands for a number too large to be finite.
-/
def nearestRank (num den : Nat) : Nat :=
  let whole := num / den
  let shift := whole.log2 - 52
  let below := shift * binade + (whole >>> shift)
  let middle := (magnitude below + magnitude (below + 1)) * den
  if 2 * num < middle then below
  else if 2 * num = middle then below + below % 2
  else below + 1

/-- The number nearest to `num / den` units with the given sign. -/
def ofRatio (negative : Bool) (num den : Nat) : Binary64 :=
  let rank := nearestRank num den
  if h : rank < 0x7FF0000000000000 then finite negative ⟨rank, h⟩ else infinite negative

/-- The number nearest to a signed count of units. The sum zero is positive. -/
def ofUnits (units : Int) : Binary64 := ofRatio (decide (units < 0)) units.natAbs 1

/-- Positive zero. -/
def zero : Binary64 := finite false ⟨0, by decide⟩

/-- The number one. -/
def one : Binary64 := finite false ⟨0x3FF0000000000000, by decide⟩

/-- The largest finite number. -/
def largest : Binary64 := finite false ⟨0x7FEFFFFFFFFFFFFF, by decide⟩

/-- The number nearest to an integer. -/
def ofInt (n : Int) : Binary64 := ofUnits (n * unitsPerOne)

/-- The integer of a sign and a magnitude. -/
def signed (negative : Bool) (magnitude : Nat) : Int :=
  if negative then -(magnitude : Int) else magnitude

/--
The signed number of units of a finite number, and the place of an infinity beyond all of them;
none for "not a number". Numbers compare as these integers do.
-/
def units? : Binary64 → Option Int
  | nan => none
  | infinite negative => some (signed negative (magnitude rankCount))
  | finite negative rank => some (signed negative (magnitude rank))

/-- Whether a number is neither infinite nor "not a number". -/
def isFinite : Binary64 → Bool
  | finite _ _ => true
  | _ => false

/-- Equality of numbers: both zeros are equal, and "not a number" equals nothing. -/
def same (x y : Binary64) : Bool :=
  match x.units?, y.units? with
  | some a, some b => a == b
  | _, _ => false

/-- The order of numbers; "not a number" is not comparable. -/
def le (x y : Binary64) : Bool :=
  match x.units?, y.units? with
  | some a, some b => decide (a ≤ b)
  | _, _ => false

/-- The integer that a number without a fraction denotes. -/
def toInt? : Binary64 → Option Int
  | finite negative rank =>
    if magnitude rank % unitsPerOne = 0 then
      some (signed negative (magnitude rank / unitsPerOne))
    else none
  | _ => none

/-- The number of the opposite sign. -/
def neg : Binary64 → Binary64
  | nan => nan
  | infinite negative => infinite (!negative)
  | finite negative rank => finite (!negative) rank

/-- The sum. A sum of zero is negative only if both numbers are negative zeros. -/
def add : Binary64 → Binary64 → Binary64
  | nan, _ => nan
  | _, nan => nan
  | infinite a, infinite b => if a = b then infinite a else nan
  | infinite a, finite _ _ => infinite a
  | finite _ _, infinite b => infinite b
  | finite a m, finite b n =>
    let sum := signed a (magnitude m) + signed b (magnitude n)
    if sum = 0 then finite (a && b) ⟨0, by decide⟩ else ofUnits sum

/-- The difference. -/
def sub (x y : Binary64) : Binary64 := add x (neg y)

/-- The product. -/
def mul : Binary64 → Binary64 → Binary64
  | nan, _ => nan
  | _, nan => nan
  | infinite a, infinite b => infinite (a != b)
  | infinite a, finite b n => if n.val = 0 then nan else infinite (a != b)
  | finite a m, infinite b => if m.val = 0 then nan else infinite (a != b)
  | finite a m, finite b n => ofRatio (a != b) (magnitude m * magnitude n) unitsPerOne

/-- The quotient. -/
def div : Binary64 → Binary64 → Binary64
  | nan, _ => nan
  | _, nan => nan
  | infinite _, infinite _ => nan
  | infinite a, finite b _ => infinite (a != b)
  | finite a _, infinite b => finite (a != b) ⟨0, by decide⟩
  | finite a m, finite b n =>
    if n.val = 0 then
      if m.val = 0 then nan else infinite (a != b)
    else ofRatio (a != b) (magnitude m * unitsPerOne) (magnitude n)

/-- The running product of a power by repeated squaring, rounded at every step. -/
def powAux (result base : Binary64) (exponent : Nat) : Binary64 :=
  let result := if exponent % 2 = 1 then mul result base else result
  if exponent / 2 = 0 then result else powAux result (mul base base) (exponent / 2)
termination_by exponent
decreasing_by omega

/-- A power with an integer exponent; a negative one gives the reciprocal of the power. -/
def pow (base : Binary64) (exponent : Int) : Binary64 :=
  let power := powAux one base exponent.natAbs
  if exponent < 0 then div one power else power

/--
The number nearest to `coefficient * 10 ^ exponent`. Exponents far outside the range of the format
are answered without computing the power.
-/
def ofDecimal (negative : Bool) (coefficient : Nat) (exponent : Int) : Binary64 :=
  let leading := exponent + (Nat.toDigits 10 coefficient).length
  if coefficient = 0 then finite negative ⟨0, by decide⟩
  else if 400 < leading then infinite negative
  else if leading < -400 then finite negative ⟨0, by decide⟩
  else if 0 ≤ exponent then
    ofRatio negative (coefficient * Nat.pow 10 exponent.toNat * unitsPerOne) 1
  else ofRatio negative (coefficient * unitsPerOne) (Nat.pow 10 (-exponent).toNat)

/-- The bits of a number as a natural number; "not a number" has one canonical form. -/
def toBits : Binary64 → Nat
  | nan => 0x7FF8000000000000
  | infinite negative => (if negative then 0x8000000000000000 else 0) + rankCount
  | finite negative rank => (if negative then 0x8000000000000000 else 0) + rank

/-- The number with the given bits, of which the lowest sixty-four count. -/
def ofBits (bits : Nat) : Binary64 :=
  let negative := decide (bits / 0x8000000000000000 % 2 = 1)
  let rank := bits % 0x8000000000000000
  if h : rank < 0x7FF0000000000000 then finite negative ⟨rank, h⟩
  else if rank = rankCount then infinite negative
  else nan

end Binary64
end RecordAccess
