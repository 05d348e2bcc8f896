import RecordAccess.Text.LetterCase
/-!
# Lowercase Text

The lowercase form of a text in any script. Each letter is lowered on its own, except that a capital
sigma becomes the final sigma at the end of a word, and that the dotted capital I becomes two
characters.
-/

namespace RecordAccess

namespace LetterCase

/-- The lowercase form of one character, apart from its surroundings. -/
def lowerChar (c : Char) : List Char :=
  if c.toNat < 128 then [c.toLower]
  else if c.toNat = 0x130 then ['i', Char.ofNat 0x307]
  else
    match capitals.find? fun (first, last, step, _) =>
        decide (first ≤ c.toNat) && decide (c.toNat ≤ last) && (c.toNat - first) % step == 0 with
    | some (_, _, _, offset) => [Char.ofNat (c.toNat + offset).toNat]
    | none => [c]

/-- Whether the first character that decides the case of a word has letter case. -/
def startsCased (cs : List Char) : Bool :=
  match cs.dropWhile (within ignorableRanges) with
  | [] => false
  | c :: _ => within casedRanges c

/--
The lowercase form of a text that follows the characters of `before`, nearest first. A capital sigma
is final when a cased letter stands before it and none after it.
-/
def lowerAfter (before : List Char) : List Char → List Char
  | [] => []
  | c :: rest =>
    let lowered :=
      if c.toNat = 0x3A3 then
        [Char.ofNat (if startsCased before && !startsCased rest then 0x3C2 else 0x3C3)]
      else lowerChar c
    lowered ++ lowerAfter (c :: before) rest

end LetterCase

/-- The lowercase form of a text. -/
def lowercase (text : String) : String :=
  String.ofList (LetterCase.lowerAfter [] text.toList)

end RecordAccess
