/-
  Texts made of lines.

  Key definitions include:
    * `ResourcePack.Text.unlines`
    * `ResourcePack.Text.orBlank`
    * `ResourcePack.Text.spaces`
    * `ResourcePack.Text.pieces`

  A generated file is a list of lines, each ended by a line feed.
  A block of lines that is joined into such a file leaves one
  blank line when it holds none; `orBlank` says so.
-/

namespace ResourcePack.Text

/- The text of a list of lines, each ended by a line feed. -/
def unlines : List String → String
  | [] => ""
  | line :: rest => line ++ "\n" ++ unlines rest

/- A block of lines; a single blank line stands for no lines. -/
def orBlank : List String → List String
  | [] => [""]
  | lines => lines

/- A run of spaces. -/
def spaces
    (n : Nat) : String :=
  String.ofList (List.replicate n ' ')

/-
  The pieces of a text between the occurrences of a character;
  always one more than there are occurrences.
-/
def pieces
    (mark : Char) : List Char → List (List Char)
  | [] => [[]]
  | c :: rest =>
    if c = mark then
      [] :: pieces mark rest
    else
      match pieces mark rest with
      | [] => [[c]]
      | piece :: others => (c :: piece) :: others

/- The pieces of a string between the occurrences of a character. -/
def splitOn
    (mark : Char)
    (text : String) : List String :=
  (pieces mark text.toList).map String.ofList

end ResourcePack.Text
