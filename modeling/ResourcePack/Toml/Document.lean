import ResourcePack.Toml.Scalar
import ResourcePack.Toml.Table

/-
  Configuration files in TOML.

  Key definitions include:
    * `ResourcePack.Toml.value?`
    * `ResourcePack.Toml.Statement`
    * `ResourcePack.Toml.statement?`
    * `ResourcePack.Toml.document?`
    * `ResourcePack.Toml.parse?`

  A document is a sequence of lines: a header that opens a table, a
  key with its value, or nothing but a comment.  Every reader takes
  its text from the front and gives what is left.
-/

------------------------------------------------------------
-- Space and Keys
------------------------------------------------------------

namespace ResourcePack.Toml

/- Without the blanks in front. -/
def skipBlanks
    (cs : List Char) : List Char :=
  cs.dropWhile isBlank

/- Without the blanks, line ends and comments in front. -/
def skipVoid
    (inComment : Bool) : List Char → List Char
  | '\n' :: rest => skipVoid false rest
  | '\r' :: '\n' :: rest => skipVoid false rest
  | c :: rest =>
    if inComment then
      if isPlain c then skipVoid true rest else c :: rest
    else if c = '#' then skipVoid true rest
    else if isBlank c then skipVoid false rest
    else c :: rest
  | [] => []

/- Whether a character may stand in a key without quotes. -/
def isBareKeyChar
    (c : Char) : Bool :=
  c.isAlphanum || c = '_' || c = '-'

/- One key, bare or in quotes. -/
def key? : List Char → Option (String × List Char)
  | '"' :: rest => (basic? rest).map fun (text, rest) => (String.ofList text, rest)
  | '\'' :: rest => (literal? rest).map fun (text, rest) => (String.ofList text, rest)
  | cs =>
    match cs.takeWhile isBareKeyChar with
    | [] => none
    | name => some (String.ofList name, cs.dropWhile isBareKeyChar)

/- How deep keys with dots, and lists and tables in values, may go. -/
def maxDepth : Nat :=
  79

/- At most so many keys with dots between them. -/
def keys? : Nat → List Char → Option (List String × List Char)
  | 0, _ => none
  | count + 1, cs => do
    let (name, rest) ← key? (skipBlanks cs)
    match skipBlanks rest with
    | '.' :: rest =>
      let (names, rest) ← keys? count rest
      return (name :: names, rest)
    | rest => return ([name], rest)

/- Keys with dots between them: the last, and those before it. -/
def keyPath?
    (cs : List Char) : Option ((List String × String) × List Char) := do
  let (names, rest) ← keys? maxDepth cs
  match names.getLast? with
  | some name => return ((names.dropLast, name), rest)
  | none => none

end ResourcePack.Toml

------------------------------------------------------------
-- Values
------------------------------------------------------------

namespace ResourcePack.Toml

open Settings (Value)

/- What a reader of values gives: a value, and what is left. -/
abbrev Reader := List Char → Option (Value × List Char)

/- A text as a value. -/
def asText
    (r : Read) : Option (Value × List Char) :=
  r.map fun (text, rest) => (.text (String.ofList text), rest)

/- A text in one of the four forms of quotes, or a scalar. -/
def simple? : Reader
  | '"' :: '"' :: '"' :: rest => asText (basicBlock? rest)
  | '\'' :: '\'' :: '\'' :: rest => asText (literalBlock? rest)
  | '"' :: rest => asText (basic? rest)
  | '\'' :: rest => asText (literal? rest)
  | cs => takeScalar? cs

/-
  At most so many items of a list with commas between them, up to
  the closing bracket.  A comma may stand behind the last.
-/
def items?
    (read : Reader) : Nat → List Char → Option (List Value × List Char)
  | 0, _ => none
  | count + 1, cs =>
    match skipVoid false cs with
    | ']' :: rest => some ([], rest)
    | cs => do
      let (item, rest) ← read cs
      match skipVoid false rest with
      | ',' :: rest =>
        let (others, rest) ← items? read count rest
        return (item :: others, rest)
      | ']' :: rest => return ([item], rest)
      | _ => none

/-
  At most so many keys with their values on one line, with commas
  between them, up to the closing brace.
-/
def pairs?
    (read : Reader)
    (fields : Node.Fields) : Nat → List Char → Option (Node.Fields × List Char)
  | 0, _ => none
  | count + 1, cs => do
    let ((path, name), rest) ← keyPath? cs
    match rest with
    | '=' :: rest =>
      let (v, rest) ← read (skipBlanks rest)
      let fields ← Node.assign? path name v fields
      match skipBlanks rest with
      | ',' :: rest => pairs? read fields count rest
      | '\x7d' :: rest => return (fields, rest)
      | _ => none
    | _ => none

/- A table on one line, behind its opening brace. -/
def inlineTable?
    (read : Reader)
    (cs : List Char) : Option (Value × List Char) :=
  match skipBlanks cs with
  | '\x7d' :: rest => some (.empty, rest)
  | cs =>
    (pairs? read [] cs.length cs).map fun (fields, rest) =>
      (.table (Node.fieldsValue fields), rest)

/- A value in which lists and tables go at most so deep. -/
def value? : Nat → Reader
  | 0, '[' :: _ => none
  | 0, '\x7b' :: _ => none
  | depth + 1, '[' :: rest =>
    (items? (value? depth) (rest.length + 1) rest).map fun (items, rest) => (.list items, rest)
  | depth + 1, '\x7b' :: rest => inlineTable? (value? depth) rest
  | _, cs => simple? cs

end ResourcePack.Toml

------------------------------------------------------------
-- Lines
------------------------------------------------------------

namespace ResourcePack.Toml

open Settings (Value)

/- What a line of a document says. -/
inductive Statement where
  | table (path : List String) (name : String)
  | item (path : List String) (name : String)
  | assignment (path : List String) (name : String) (v : Value)

/- A statement at the front of a line. -/
def statement? : List Char → Option (Statement × List Char)
  | '[' :: '[' :: rest => do
    match ← keyPath? rest with
    | ((path, name), ']' :: ']' :: rest) => return (.item path name, rest)
    | _ => none
  | '[' :: rest => do
    match ← keyPath? rest with
    | ((path, name), ']' :: rest) => return (.table path name, rest)
    | _ => none
  | cs => do
    match ← keyPath? cs with
    | ((path, name), '=' :: rest) =>
      let (v, rest) ← value? maxDepth (skipBlanks rest)
      return (.assignment path name v, rest)
    | _ => none

/- What is left behind a comment. -/
def skipComment : List Char → List Char
  | '#' :: rest => rest.dropWhile isPlain
  | cs => cs

/- The rest of a line that has nothing but a comment left. -/
def lineEnd?
    (cs : List Char) : Option (List Char) :=
  match skipComment (skipBlanks cs) with
  | [] => some []
  | '\n' :: rest => some rest
  | '\r' :: '\n' :: rest => some rest
  | _ => none

/- The statements of at most so many lines. -/
def statements? : Nat → List Char → Option (List Statement)
  | 0, [] => some []
  | 0, _ => none
  | count + 1, cs =>
    if cs.isEmpty then
      some []
    else
      match lineEnd? cs with
      | some rest => statements? count rest
      | none => do
        let (s, rest) ← statement? (skipBlanks cs)
        let others ← statements? count (← lineEnd? rest)
        return s :: others

end ResourcePack.Toml

------------------------------------------------------------
-- Documents
------------------------------------------------------------

namespace ResourcePack.Toml

open Settings (Value)

/- A document while it is read: its tables, and the one that is open. -/
structure Document where
  fields : Node.Fields := []
  opened : List String := []

namespace Document

/- A document with one more statement. -/
def add?
    (d : Document) : Statement → Option Document
  | .table path name =>
    (Node.open? path name d.fields).map fun fields => ⟨fields, path ++ [name]⟩
  | .item path name =>
    (Node.openItem? path name d.fields).map fun fields => ⟨fields, path ++ [name]⟩
  | .assignment path name v =>
    (Node.assignIn? d.opened path name v d.fields).map fun fields => ⟨fields, d.opened⟩

end Document

/- The document that statements make. -/
def document?
    (statements : List Statement) : Option Document :=
  statements.foldlM Document.add? {}

/- Without the mark that may stand at the front of a file. -/
def skipByteOrderMark : List Char → List Char
  | '\uFEFF' :: rest => rest
  | cs => cs

/- The table that the text of a configuration file stands for. -/
def parse?
    (text : String) : Option (List (String × Value)) := do
  let cs := skipByteOrderMark text.toList
  let d ← document? (← statements? cs.length cs)
  return Node.fieldsValue d.fields

end ResourcePack.Toml
