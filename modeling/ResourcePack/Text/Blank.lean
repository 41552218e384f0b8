import ResourcePack.Text.Ranges

/-
  White space in the Unicode sense.

  Key definitions include:
    * `ResourcePack.Text.isBlank`
    * `ResourcePack.Text.allBlank`

  The table holds the characters with the property White_Space.
-/

namespace ResourcePack.Text

/- Characters with the property White_Space. -/
def blankRanges : List (Nat × Nat) := [
    (0x9, 0xD), (0x20, 0x20), (0x85, 0x85), (0xA0, 0xA0), (0x1680, 0x1680),
    (0x2000, 0x200A), (0x2028, 0x2029), (0x202F, 0x202F), (0x205F, 0x205F),
    (0x3000, 0x3000)]

/- Whether `c` is white space. -/
def isBlank
    (c : Char) : Bool :=
  within blankRanges c

/- Whether nothing is left of a text when white space is trimmed. -/
def allBlank
    (text : String) : Bool :=
  text.toList.all isBlank

/- A text without the white space at its two ends. -/
def trimBlank
    (text : List Char) : List Char :=
  ((text.dropWhile isBlank).reverse.dropWhile isBlank).reverse

end ResourcePack.Text
