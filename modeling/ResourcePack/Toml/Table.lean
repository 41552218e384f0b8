import ResourcePack.Settings.Value

/-
  Tables while they are being defined.

  Key definitions include:
    * `ResourcePack.Toml.Node`
    * `ResourcePack.Toml.Node.assign?`
    * `ResourcePack.Toml.Node.open?`
    * `ResourcePack.Toml.Node.openItem?`
    * `ResourcePack.Toml.Node.toValue`

  A table can be defined by a header, by the headers of tables
  below it, or by keys with dots.  A table knows which, because a
  key can be given once only, a header too, and keys with dots may
  not add to a table that a header has defined.
-/

------------------------------------------------------------
-- Nodes
------------------------------------------------------------

namespace ResourcePack.Toml

open Settings (Value)

/- How a table came to be. -/
inductive Origin where
  /- By a header of its own. -/
  | header
  /- By the header of a table below it. -/
  | above
  /- By a key with dots. -/
  | dotted
  deriving DecidableEq

/- What a key leads to while a document is read. -/
inductive Node where
  | value (v : Value)
  | table (origin : Origin) (fields : List (String × Node))
  | tables (items : List (List (String × Node)))

namespace Node

/- The fields of a table that is being defined. -/
abbrev Fields := List (String × Node)

/- Fields with one of them set: in its place, or at the end. -/
def setField
    (name : String)
    (node : Node) : Fields → Fields
  | [] => [(name, node)]
  | f :: rest => if f.1 = name then (name, node) :: rest else f :: setField name node rest

/- A list with its last item changed. -/
def changeLast?
    {α : Type}
    (change : α → Option α) : List α → Option (List α)
  | [] => none
  | [a] => (change a).map ([·])
  | a :: rest => (changeLast? change rest).map (a :: ·)

end Node

end ResourcePack.Toml

------------------------------------------------------------
-- Changing Tables
------------------------------------------------------------

namespace ResourcePack.Toml

open Settings (Value)

namespace Node

/-
  Change the fields of the table at a path.  Tables that are not
  there are made, with the given origin.  The last of several
  tables is the one that a path goes through.  Keys with dots go
  through no table that has a header.
-/
def changeAt?
    (origin : Origin)
    (change : Origin → Fields → Option Fields)
    (here : Origin)
    (fields : Fields) : List String → Option Fields
  | [] => change here fields
  | name :: path =>
    match fields.lookup name with
    | none => do
      let made ← changeAt? origin change origin [] path
      return setField name (table origin made) fields
    | some (table o inner) =>
      if origin = .dotted && o = .header then
        none
      else do
        let changed ← changeAt? origin change o inner path
        return setField name (table o changed) fields
    | some (tables items) => do
      let changed ← changeLast? (fun inner => changeAt? origin change .header inner path) items
      return setField name (tables changed) fields
    | some (value _) => none

/-
  Give a key a value.  What a path of keys adds to has to come from
  keys with dots, too.
-/
def assign?
    (path : List String)
    (name : String)
    (v : Value)
    (fields : Fields) : Option Fields :=
  changeAt? .dotted
    (fun o inner =>
      if decide (o = .dotted) ≠ !path.isEmpty || (inner.lookup name).isSome then none
      else some (inner ++ [(name, value v)]))
    .header fields path

/- Define a table by a header. -/
def open?
    (path : List String)
    (name : String)
    (fields : Fields) : Option Fields :=
  changeAt? .above
    (fun _ inner =>
      match inner.lookup name with
      | none => some (inner ++ [(name, table .header [])])
      | some (table .above below) => some (setField name (table .header below) inner)
      | some _ => none)
    .header fields path

/- Add a table to a list of tables by a header. -/
def openItem?
    (path : List String)
    (name : String)
    (fields : Fields) : Option Fields :=
  changeAt? .above
    (fun _ inner =>
      match inner.lookup name with
      | none => some (inner ++ [(name, tables [[]])])
      | some (tables items) => some (setField name (tables (items ++ [[]])) inner)
      | some _ => none)
    .header fields path

/-
  Give a key a value in the table that was opened last.  The path
  to that table may go through any table.
-/
def assignIn?
    (opened : List String)
    (path : List String)
    (name : String)
    (v : Value)
    (fields : Fields) : Option Fields :=
  changeAt? .above (fun _ inner => assign? path name v inner) .header fields opened

end Node

end ResourcePack.Toml

------------------------------------------------------------
-- Results
------------------------------------------------------------

namespace ResourcePack.Toml

open Settings (Value)

namespace Node

mutual

/- The value of a node when everything is defined. -/
def toValue : Node → Value
  | value v => v
  | table _ fields => .table (fieldsValue fields)
  | tables items => .list (itemsValue items)

def fieldsValue : Fields → List (String × Value)
  | [] => []
  | (name, node) :: rest => (name, toValue node) :: fieldsValue rest

def itemsValue : List Fields → List Value
  | [] => []
  | fields :: rest => .table (fieldsValue fields) :: itemsValue rest

end

end Node

end ResourcePack.Toml
