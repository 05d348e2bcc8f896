import RecordAccess.Json.Basic
import RecordAccess.Json.Written
/-!
# Reading JSON

What written JSON denotes. Integers that fit are integers; every other number is floating point,
computed from at most nineteen or twenty leading digits by one multiplication or division by a power
of ten. Escaped surrogates have to come in pairs, containers may be nested only so deep, and of
equal keys in an object the last counts.
-/

namespace RecordAccess.Json

namespace Numeral

/-- The digits that count and the power of ten that stands for the others. -/
structure Kept where
  significand : Nat
  exponent : Int

/-- Take in digits before the point: once one does not fit into 64 bits, the rest only scale. -/
def keepWhole (kept : Kept) : List Nat → Kept
  | [] => kept
  | d :: rest =>
    if kept.exponent = 0 ∧ kept.significand * 10 + d < UInt64.size then
      keepWhole ⟨kept.significand * 10 + d, 0⟩ rest
    else keepWhole ⟨kept.significand, kept.exponent + 1⟩ rest

/-- Take in digits after the point up to the first that does not fit into 64 bits. -/
def keepFraction (kept : Kept) : List Nat → Kept
  | [] => kept
  | d :: rest =>
    if kept.significand * 10 + d < UInt64.size then
      keepFraction ⟨kept.significand * 10 + d, kept.exponent - 1⟩ rest
    else kept

/-- The number nearest to a power of ten. -/
def powerOfTen (n : Nat) : Binary64 := .ofDecimal false 1 n

/--
A number times a power of ten, in one rounded step if the power is a number of the format. A product
beyond the largest number is refused; a quotient below the smallest is zero.
-/
def scaled? (x : Binary64) (exponent : Int) : Option Binary64 :=
  if exponent.natAbs ≤ 308 then
    if 0 ≤ exponent then
      let product := x.mul (powerOfTen exponent.natAbs)
      if product.isFinite then some product else none
    else some (x.div (powerOfTen exponent.natAbs))
  else if x.same .zero then some x
  else if 0 ≤ exponent then none
  else scaled? (x.div (powerOfTen 308)) (exponent + 308)
termination_by exponent.natAbs
decreasing_by omega

/-- The floating-point number of some digits. -/
def float? (negative : Bool) (kept : Kept) : Option Json :=
  (scaled? (.ofInt kept.significand) kept.exponent).map fun x =>
    .float (if negative then x.neg else x)

/-- The number that a numeral denotes. -/
def value? (n : Numeral) : Option Json :=
  let kept := keepWhole ⟨0, 0⟩ n.whole
  match n.fraction, n.exponent with
  | none, none =>
    if kept.exponent ≠ 0 then float? n.negative kept
    else if !n.negative then some (.int kept.significand)
    else if kept.significand = 0 ∨ 0x8000000000000000 < kept.significand then float? true kept
    else some (.int (-kept.significand))
  | fraction, exponent =>
    let kept := keepFraction kept (fraction.getD [])
    float? n.negative { kept with exponent := kept.exponent + exponent.getD 0 }

end Numeral

/-- The characters that the pieces of a string denote. -/
def pieceChars? : List Piece → Option (List Char)
  | [] => some []
  | .char c :: rest => (pieceChars? rest).map fun cs => c :: cs
  | .unit n :: rest =>
    if 0xDC00 ≤ n ∧ n ≤ 0xDFFF then none
    else if 0xD800 ≤ n ∧ n ≤ 0xDBFF then
      match rest with
      | .unit m :: later =>
        if 0xDC00 ≤ m ∧ m ≤ 0xDFFF then
          (pieceChars? later).map fun cs =>
            Char.ofNat (0x10000 + (n - 0xD800) * 0x400 + (m - 0xDC00)) :: cs
        else none
      | _ => none
    else (pieceChars? rest).map fun cs => Char.ofNat n :: cs

/-- The string that pieces denote. -/
def pieceText? (pieces : List Piece) : Option String := (pieceChars? pieces).map String.ofList

namespace Written

mutual

/-- The canonical value of written JSON with containers nested at most `room` deep. -/
def value? (room : Nat) : Written → Option Json
  | .null => some .null
  | .bool value => some (.bool value)
  | .number numeral => numeral.value?
  | .string pieces => (pieceText? pieces).map .string
  | .array items =>
    match room with
    | 0 => none
    | inner + 1 => (items? inner items).map .array
  | .object members =>
    match room with
    | 0 => none
    | inner + 1 => (members? inner members).map fun ms => .object (sortMembers ms)

/-- The values of written items. -/
def items? (room : Nat) : List Written → Option (List Json)
  | [] => some []
  | item :: rest => do
    let value ← value? room item
    let values ← items? room rest
    return value :: values

/-- The members of a written object, in the order of the text. -/
def members? (room : Nat) : List (List Piece × Written) → Option (List (String × Json))
  | [] => some []
  | (key, item) :: rest => do
    let key ← pieceText? key
    let value ← value? room item
    let values ← members? room rest
    return (key, value) :: values

end

end Written

/-- How deep containers may be nested in a text. -/
def maxDepth : Nat := 127

/-- The canonical value that a JSON text denotes. -/
def ofText? (text : String) : Option Json :=
  (Written.ofText? text.toList).bind (Written.value? maxDepth)

end RecordAccess.Json
