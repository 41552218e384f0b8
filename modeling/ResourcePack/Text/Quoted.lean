import ResourcePack.Text.Combining
import ResourcePack.Text.Printable

/-
  Texts shown between quotes.

  Key definitions include:
    * `ResourcePack.Text.escapeIn`
    * `ResourcePack.Text.quotedText`
    * `ResourcePack.Text.quotedChar`
    * `ResourcePack.Text.quotedList`

  Messages quote what they talk about so that every character can
  be seen: the quote itself and the backslash are escaped, tab,
  line feed, return and NUL have short forms, and a character that
  is combining or not printable is given by its code point.
-/

namespace ResourcePack.Text

/- The code point of a character in hexadecimal, between braces. -/
def codePointEscape
    (c : Char) : List Char :=
  ['\\', 'u', '\x7b'] ++ Nat.toDigits 16 c.toNat ++ ['\x7d']

/- How a character is written between two `mark`s. -/
def escapeIn
    (mark : Char)
    (c : Char) : List Char :=
  if c = '\t' then ['\\', 't']
  else if c = '\r' then ['\\', 'r']
  else if c = '\n' then ['\\', 'n']
  else if c = '\x00' then ['\\', '0']
  else if c = '\\' then ['\\', '\\']
  else if c = mark then ['\\', mark]
  else if isCombining c then codePointEscape c
  else if isPrintable c then [c]
  else codePointEscape c

/- A text between double quotes. -/
def quotedText
    (text : String) : String :=
  String.ofList ('"' :: (text.toList.flatMap (escapeIn '"') ++ ['"']))

/- A character between single quotes. -/
def quotedChar
    (c : Char) : String :=
  String.ofList ('\'' :: (escapeIn '\'' c ++ ['\'']))

/- A list of texts, each between double quotes. -/
def quotedList
    (texts : List String) : String :=
  "[" ++ String.intercalate ", " (texts.map quotedText) ++ "]"

end ResourcePack.Text
