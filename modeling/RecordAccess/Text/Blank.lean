/-!
# Blank Characters

The characters that count as white space, and the functions that leave them out.
-/

namespace RecordAccess

/-- Whether a character is white space; zero-width characters are not. -/
def isBlank (c : Char) : Bool :=
  let n := c.toNat
  (decide (0x9 ≤ n) && decide (n ≤ 0xD)) || n == 0x20 || n == 0x85 || n == 0xA0 || n == 0x1680
    || (decide (0x2000 ≤ n) && decide (n ≤ 0x200A)) || n == 0x2028 || n == 0x2029 || n == 0x202F
    || n == 0x205F || n == 0x3000

/-- The text without the blanks at its start and end. -/
def trimChars (cs : List Char) : List Char :=
  ((cs.dropWhile isBlank).reverse.dropWhile isBlank).reverse

/-- Trimming does not lengthen a text. -/
theorem length_trimChars_le (cs : List Char) : (trimChars cs).length ≤ cs.length := by
  have h (l : List Char) : (l.dropWhile isBlank).length ≤ l.length :=
    (List.dropWhile_sublist _).length_le
  simpa [trimChars] using Nat.le_trans (h _) (by simpa using h cs)

/-- The text without the blanks at its start and end. -/
def trim (text : String) : String := String.ofList (trimChars text.toList)

/-- The words of a text after the characters of an unfinished word, latest first. -/
def wordsAfter (word : List Char) : List Char → List (List Char)
  | [] => if word.isEmpty then [] else [word.reverse]
  | c :: rest =>
    if isBlank c then
      if word.isEmpty then wordsAfter [] rest else word.reverse :: wordsAfter [] rest
    else wordsAfter (c :: word) rest

/-- The maximal parts of a text without blanks. -/
def words (cs : List Char) : List (List Char) := wordsAfter [] cs

end RecordAccess
