/-!
# Bytes as Text

Hexadecimal digits of bytes, and the reading of bytes as UTF-8 that puts one replacement character
in place of every maximal part that is not well formed.
-/

namespace RecordAccess

namespace Hex

/-- The uppercase hexadecimal digit of a number below sixteen. -/
def digit (n : Nat) : Char := if n < 10 then Char.ofNat (48 + n) else Char.ofNat (55 + n)

/-- The two hexadecimal digits of a byte. -/
def ofByte (b : UInt8) : List Char := [digit (b.toNat / 16), digit (b.toNat % 16)]

/-- The hexadecimal digits of some bytes. -/
def encode (bytes : List UInt8) : String := String.ofList (bytes.flatMap ofByte)

end Hex

namespace Utf8

/-- A range of bytes, both ends included. -/
structure ByteRange where
  low : Nat
  high : Nat

namespace ByteRange

/-- Whether a byte lies in a range. -/
def holds (r : ByteRange) (b : UInt8) : Bool :=
  decide (r.low ≤ b.toNat) && decide (b.toNat ≤ r.high)

/-- The bytes that continue a character. -/
def continuation : ByteRange := ⟨0x80, 0xBF⟩

end ByteRange

/-- A character begun but not finished: its bits so far and the ranges of the bytes still due. -/
structure Pending where
  bits : Nat
  next : ByteRange
  later : List ByteRange

/-- The character begun by a byte beyond ASCII. The second byte keeps out overlong forms,
surrogates and numbers beyond the last code point. -/
def begin? (b : UInt8) : Option Pending :=
  let n := b.toNat
  let more := ByteRange.continuation
  if 0xC2 ≤ n ∧ n ≤ 0xDF then some ⟨n - 0xC0, more, []⟩
  else if n = 0xE0 then some ⟨0, ⟨0xA0, 0xBF⟩, [more]⟩
  else if n = 0xED then some ⟨0xD, ⟨0x80, 0x9F⟩, [more]⟩
  else if 0xE1 ≤ n ∧ n ≤ 0xEF then some ⟨n - 0xE0, more, [more]⟩
  else if n = 0xF0 then some ⟨0, ⟨0x90, 0xBF⟩, [more, more]⟩
  else if 0xF1 ≤ n ∧ n ≤ 0xF3 then some ⟨n - 0xF0, more, [more, more]⟩
  else if n = 0xF4 then some ⟨4, ⟨0x80, 0x8F⟩, [more, more]⟩
  else none

/-- The character that stands for bytes that are not well formed. -/
def replacement : Char := Char.ofNat 0xFFFD

/-- What a byte gives where a character may begin: finished characters and one begun. -/
def start (b : UInt8) : List Char × Option Pending :=
  if b.toNat < 0x80 then ([Char.ofNat b.toNat], none)
  else
    match begin? b with
    | some pending => ([], some pending)
    | none => ([replacement], none)

/-- What a byte gives after a character begun. A byte that does not continue it is read anew. -/
def step (pending : Option Pending) (b : UInt8) : List Char × Option Pending :=
  match pending with
  | none => start b
  | some ⟨bits, next, later⟩ =>
    if next.holds b then
      let bits := bits * 64 + (b.toNat - 0x80)
      match later with
      | [] => ([Char.ofNat bits], none)
      | range :: rest => ([], some ⟨bits, range, rest⟩)
    else
      let (chars, begun) := start b
      (replacement :: chars, begun)

/-- The characters of the bytes that follow a character begun. -/
def decodeAfter (pending : Option Pending) : List UInt8 → List Char
  | [] => if pending.isSome then [replacement] else []
  | b :: rest =>
    let (chars, begun) := step pending b
    chars ++ decodeAfter begun rest

/-- The text of some bytes, with replacement characters where they are not well formed. -/
def decode (bytes : List UInt8) : String := String.ofList (decodeAfter none bytes)

end Utf8
end RecordAccess
