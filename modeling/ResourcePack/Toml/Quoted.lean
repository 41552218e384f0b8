/-
  Quoted texts in configuration files.

  Key definitions include:
    * `ResourcePack.Toml.basic?`
    * `ResourcePack.Toml.literal?`
    * `ResourcePack.Toml.basicBlock?`
    * `ResourcePack.Toml.literalBlock?`

  There are four forms: on one line or over several, and with
  escapes or without.  Each reader starts behind the opening quotes
  and gives the text and what follows the closing ones.
-/

------------------------------------------------------------
-- Characters
------------------------------------------------------------

namespace ResourcePack.Toml

/- A character that may stand in a text or a comment as it is. -/
def isPlain
    (c : Char) : Bool :=
  c = '\t' || (32 ≤ c.toNat && c.toNat ≠ 127)

/- Spaces and tabs. -/
def isBlank
    (c : Char) : Bool :=
  c = ' ' || c = '\t'

/- The value of a hexadecimal digit. -/
def hexDigit?
    (c : Char) : Option Nat :=
  if '0' ≤ c && c ≤ '9' then some (c.toNat - 48)
  else if 'a' ≤ c && c ≤ 'f' then some (c.toNat - 87)
  else if 'A' ≤ c && c ≤ 'F' then some (c.toNat - 55)
  else none

/- The value of hexadecimal digits behind a value. -/
def hexFrom
    (value : Nat) : List Char → Option Nat
  | [] => some value
  | c :: rest => do hexFrom (16 * value + (← hexDigit? c)) rest

/- The character of a code that is written in hexadecimal digits. -/
def codedChar?
    (digits : List Char) : Option Char := do
  let code ← hexFrom 0 digits
  if code.isValidChar then some (Char.ofNat code) else none

/- The character that a letter stands for behind a backslash. -/
def escapedChar? : Char → Option Char
  | 'b' => some '\x08'
  | 't' => some '\t'
  | 'n' => some '\n'
  | 'f' => some '\x0c'
  | 'r' => some '\r'
  | '"' => some '"'
  | '\\' => some '\\'
  | _ => none

/- What a reader gives: a text, and what is left. -/
abbrev Read := Option (List Char × List Char)

/- One more character in front of what was read. -/
def put
    (c : Char)
    (r : Read) : Read :=
  r.map fun (text, rest) => (c :: text, rest)

end ResourcePack.Toml

------------------------------------------------------------
-- On One Line
------------------------------------------------------------

namespace ResourcePack.Toml

/- A text in double quotes, with escapes. -/
def basic? : List Char → Read
  | [] => none
  | '"' :: rest => some ([], rest)
  | '\\' :: 'u' :: a :: b :: c :: d :: rest => do
    put (← codedChar? [a, b, c, d]) (basic? rest)
  | '\\' :: 'U' :: a :: b :: c :: d :: e :: f :: g :: h :: rest => do
    put (← codedChar? [a, b, c, d, e, f, g, h]) (basic? rest)
  | '\\' :: c :: rest => do
    put (← escapedChar? c) (basic? rest)
  | c :: rest => if c ≠ '\\' && isPlain c then put c (basic? rest) else none

/- A text in single quotes, without escapes. -/
def literal? : List Char → Read
  | [] => none
  | '\'' :: rest => some ([], rest)
  | c :: rest => if isPlain c then put c (literal? rest) else none

end ResourcePack.Toml

------------------------------------------------------------
-- Over Several Lines
------------------------------------------------------------

namespace ResourcePack.Toml

/-
  Where a reader stands in a text over several lines: in the text,
  behind a backslash at the end of a line, or in the blank lines
  after that, which are left out.
-/
inductive Place where
  | text
  | lineEnd
  | folded
  deriving DecidableEq

/-
  A text in three double quotes.  Up to two quotes may stand in it
  directly before the closing ones.
-/
def basicBlockFrom? : Place → List Char → Read
  | _, [] => none
  | .lineEnd, '\n' :: rest => basicBlockFrom? .folded rest
  | .lineEnd, '\r' :: '\n' :: rest => basicBlockFrom? .folded rest
  | .lineEnd, c :: rest => if isBlank c then basicBlockFrom? .lineEnd rest else none
  | _, '"' :: '"' :: '"' :: '"' :: '"' :: rest => some (['"', '"'], rest)
  | _, '"' :: '"' :: '"' :: '"' :: rest => some (['"'], rest)
  | _, '"' :: '"' :: '"' :: rest => some ([], rest)
  | place, '\r' :: '\n' :: rest =>
    if place = .folded then basicBlockFrom? .folded rest
    else put '\n' (basicBlockFrom? .text rest)
  | place, '\n' :: rest =>
    if place = .folded then basicBlockFrom? .folded rest
    else put '\n' (basicBlockFrom? .text rest)
  | _, '\\' :: 'u' :: a :: b :: c :: d :: rest => do
    put (← codedChar? [a, b, c, d]) (basicBlockFrom? .text rest)
  | _, '\\' :: 'U' :: a :: b :: c :: d :: e :: f :: g :: h :: rest => do
    put (← codedChar? [a, b, c, d, e, f, g, h]) (basicBlockFrom? .text rest)
  | _, '\\' :: c :: rest =>
    if c = '\n' then basicBlockFrom? .folded rest
    else if isBlank c || c = '\r' then basicBlockFrom? .lineEnd (c :: rest)
    else do put (← escapedChar? c) (basicBlockFrom? .text rest)
  | place, c :: rest =>
    if place = .folded && isBlank c then basicBlockFrom? .folded rest
    else if c ≠ '\\' && isPlain c then put c (basicBlockFrom? .text rest)
    else none

/- A text in three single quotes, without escapes. -/
def literalBlockFrom? : List Char → Read
  | [] => none
  | '\'' :: '\'' :: '\'' :: '\'' :: '\'' :: rest => some (['\'', '\''], rest)
  | '\'' :: '\'' :: '\'' :: '\'' :: rest => some (['\''], rest)
  | '\'' :: '\'' :: '\'' :: rest => some ([], rest)
  | '\r' :: '\n' :: rest => put '\n' (literalBlockFrom? rest)
  | c :: rest => if c = '\n' || isPlain c then put c (literalBlockFrom? rest) else none

/- Without the line end that may follow opening quotes. -/
def skipLineEnd : List Char → List Char
  | '\n' :: rest => rest
  | '\r' :: '\n' :: rest => rest
  | cs => cs

/- A text over several lines in double quotes. -/
def basicBlock?
    (cs : List Char) : Read :=
  basicBlockFrom? .text (skipLineEnd cs)

/- A text over several lines in single quotes. -/
def literalBlock?
    (cs : List Char) : Read :=
  literalBlockFrom? (skipLineEnd cs)

end ResourcePack.Toml
