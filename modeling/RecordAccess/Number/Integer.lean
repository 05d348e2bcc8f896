/-!
# Integer Texts

Decimal integers as text. Reading admits an optional sign and then ASCII digits only, at least one;
a number outside the range asked for does not read at all.
-/

namespace RecordAccess

/-- The value of an ASCII digit. -/
def digit? (c : Char) : Option Nat :=
  if c.isDigit then some (c.toNat - '0'.toNat) else none

/-- The number that digits denote after a number already read, or none if one is no digit. -/
def digitsFrom? (read : Nat) : List Char → Option Nat
  | [] => some read
  | c :: rest =>
    match digit? c with
    | some d => digitsFrom? (read * 10 + d) rest
    | none => none

/-- The number that a non-empty text of digits denotes. -/
def natural? : List Char → Option Nat
  | [] => none
  | cs => digitsFrom? 0 cs

/-- A natural number below 2⁶⁴; a plus sign may stand in front. -/
def unsigned64? (cs : List Char) : Option Nat :=
  let digits :=
    match cs with
    | '+' :: rest => rest
    | _ => cs
  match natural? digits with
  | some n => if n < UInt64.size then some n else none
  | none => none

/-- An integer of any size; a plus or minus sign may stand in front. -/
def signed? : List Char → Option Int
  | '+' :: rest => (natural? rest).map fun n => (n : Int)
  | '-' :: rest => (natural? rest).map fun n => -(n : Int)
  | cs => (natural? cs).map fun n => (n : Int)

/-- The sixty-four-bit integer equal to `n`, if there is one. -/
def int64? (n : Int) : Option Int64 :=
  if -0x8000000000000000 ≤ n ∧ n < 0x8000000000000000 then some (Int64.ofInt n) else none

/-- The sixty-four-bit integer nearest to `n`. -/
def saturate64 (n : Int) : Int64 :=
  Int64.ofInt (max (-0x8000000000000000) (min n 0x7FFFFFFFFFFFFFFF))

/-- A sixty-four-bit integer read from its decimal text. -/
def readInt64? (cs : List Char) : Option Int64 :=
  (signed? cs).bind int64?

/-- The decimal digits of a natural number, without leading zeros. -/
def naturalText (n : Nat) : String := String.ofList (Nat.toDigits 10 n)

/-- The decimal text of an integer, with a minus sign when negative. -/
def integerText (n : Int) : String :=
  if n < 0 then "-" ++ naturalText n.natAbs else naturalText n.natAbs

end RecordAccess
