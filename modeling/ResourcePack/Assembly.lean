import ResourcePack.Bundle

/-
  The assembly file.

  Key definitions include:
    * `ResourcePack.Assembly.octal`
    * `ResourcePack.Assembly.operandChar`
    * `ResourcePack.Assembly.operand`
    * `ResourcePack.Assembly.block`
    * `ResourcePack.Assembly.lines`
    * `ResourcePack.Assembly.render`

  Each resource becomes five lines: its symbol made global, an
  alignment, the label, the inclusion of the file, and one zero
  byte.  The file is named inside a string of the assembler, where
  quotes and backslashes are escaped and control characters are
  given by three octal digits.
-/

namespace ResourcePack

namespace Assembly

/- Whether `c` is a control character of ASCII. -/
def isControl
    (c : Char) : Bool :=
  c.toNat < 32 || c.toNat = 127

/- A number below 512 as three octal digits. -/
def octal
    (n : Nat) : List Char :=
  [Nat.digitChar (n / 64), Nat.digitChar (n / 8 % 8), Nat.digitChar (n % 8)]

/- A character inside a string of the assembler. -/
def operandChar
    (c : Char) : List Char :=
  if c = '\\' then ['\\', '\\']
  else if c = '"' then ['\\', '"']
  else if isControl c then '\\' :: octal c.toNat
  else [c]

/- A text inside a string of the assembler. -/
def operand
    (text : String) : String :=
  String.ofList (text.toList.flatMap operandChar)

/- The lines of one resource. -/
def block
    (align : Nat)
    (r : Resource) : List String :=
  ["    .global " ++ r.symbol,
    "    .align " ++ toString align,
    r.symbol ++ ":",
    "    .incbin \"" ++ operand r.name ++ "\"",
    "    .byte 0"]

/- The lines of the assembly file. -/
def lines
    (align : Nat)
    (resources : List Resource) : List String :=
  ".section .rodata" :: resources.flatMap (block align)

/- The text of the assembly file. -/
def render
    (resources : List Resource)
    (align : Nat) : String :=
  Text.unlines (lines align resources)

end Assembly

end ResourcePack
