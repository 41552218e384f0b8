import ResourcePack.Text.Lines

/-
  JSON values and their text.

  Key definitions include:
    * `ResourcePack.Json`
    * `ResourcePack.Json.member?`
    * `ResourcePack.Json.escapeChar`
    * `ResourcePack.Json.quoted`
    * `ResourcePack.Json.compact`
    * `ResourcePack.Json.pretty`

  Reports and log lines are printed as JSON, and a configuration
  has a JSON form.  An object keeps its fields in the order in
  which they were given.  Inside a string only the quote, the
  backslash and the characters below the space are escaped.
-/

------------------------------------------------------------
-- Values
------------------------------------------------------------

namespace ResourcePack

/- A JSON value; a fraction is a decimal with a number of places. -/
inductive Json where
  | null
  | bool (b : Bool)
  | int (n : Int)
  | fraction (mantissa : Int) (places : Nat)
  | text (s : String)
  | list (items : List Json)
  | object (fields : List (String × Json))

namespace Json

instance : Inhabited Json :=
  ⟨null⟩

/- The first field of a name. -/
def member?
    (fields : List (String × Json))
    (name : String) : Option Json :=
  (fields.find? fun f => f.1 = name).map Prod.snd

end Json

end ResourcePack

------------------------------------------------------------
-- Scalars
------------------------------------------------------------

namespace ResourcePack

namespace Json

/- A character inside a string. -/
def escapeChar
    (c : Char) : List Char :=
  if c = '"' then ['\\', '"']
  else if c = '\\' then ['\\', '\\']
  else if c = '\n' then ['\\', 'n']
  else if c = '\r' then ['\\', 'r']
  else if c = '\t' then ['\\', 't']
  else if c.toNat = 8 then ['\\', 'b']
  else if c.toNat = 12 then ['\\', 'f']
  else if c.toNat < 32 then
    ['\\', 'u', '0', '0', Nat.digitChar (c.toNat / 16), Nat.digitChar (c.toNat % 16)]
  else [c]

/- A text as a JSON string. -/
def quoted
    (s : String) : String :=
  String.ofList ('"' :: (s.toList.flatMap escapeChar ++ ['"']))

/- A decimal with the given number of places after the point. -/
def fractionText
    (mantissa : Int)
    (places : Nat) : String :=
  let digits := Nat.toDigits 10 mantissa.natAbs
  let padded := List.replicate (places + 1 - digits.length) '0' ++ digits
  (if mantissa < 0 then "-" else "") ++
    String.ofList (padded.take (padded.length - places)) ++ "." ++
    String.ofList (padded.drop (padded.length - places))

end Json

end ResourcePack

------------------------------------------------------------
-- Texts
------------------------------------------------------------

namespace ResourcePack

namespace Json

mutual

/- The text of a value without any white space. -/
def compact : Json → String
  | .null => "null"
  | .bool b => if b then "true" else "false"
  | .int n => toString n
  | .fraction mantissa places => fractionText mantissa places
  | .text s => quoted s
  | .list items => "[" ++ String.intercalate "," (compactItems items) ++ "]"
  | .object fields =>
    "\x7b" ++ String.intercalate "," (compactFields fields) ++ "\x7d"

def compactItems : List Json → List String
  | [] => []
  | j :: rest => compact j :: compactItems rest

def compactFields : List (String × Json) → List String
  | [] => []
  | (name, j) :: rest => (quoted name ++ ":" ++ compact j) :: compactFields rest

end

/- Parts on lines of their own inside brackets; none take no line. -/
def bracketed
    (opening closing : String)
    (depth : Nat)
    (parts : List String) : String :=
  match parts with
  | [] => opening ++ closing
  | _ =>
    opening ++ "\n" ++
      String.intercalate ",\n" (parts.map fun p => Text.spaces (2 * (depth + 1)) ++ p) ++
      "\n" ++ Text.spaces (2 * depth) ++ closing

mutual

/- The text of a value with one part on each line. -/
def prettyAt
    (depth : Nat) : Json → String
  | .null => "null"
  | .bool b => if b then "true" else "false"
  | .int n => toString n
  | .fraction mantissa places => fractionText mantissa places
  | .text s => quoted s
  | .list items => bracketed "[" "]" depth (prettyItems (depth + 1) items)
  | .object fields => bracketed "\x7b" "\x7d" depth (prettyFields (depth + 1) fields)

def prettyItems
    (depth : Nat) : List Json → List String
  | [] => []
  | j :: rest => prettyAt depth j :: prettyItems depth rest

def prettyFields
    (depth : Nat) : List (String × Json) → List String
  | [] => []
  | (name, j) :: rest =>
    (quoted name ++ ": " ++ prettyAt depth j) :: prettyFields depth rest

end

/- The text of a value, indented by two spaces for each level. -/
def pretty
    (j : Json) : String :=
  prettyAt 0 j

end Json

end ResourcePack
