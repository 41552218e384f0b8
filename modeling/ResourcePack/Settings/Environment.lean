import ResourcePack.Settings.Value
import ResourcePack.Text.Lines
import ResourcePack.Text.LowerCase

/-
  Settings from the environment.

  Key definitions include:
    * `ResourcePack.Environment`
    * `ResourcePack.Environment.get?`
    * `ResourcePack.Environment.key?`
    * `ResourcePack.Environment.value`
    * `ResourcePack.Environment.settings`

  A variable whose name begins with `GENRSRC__` sets the key that
  the rest of the name spells, where `__` is a dot.  Its text is
  read as a truth value or a number if it looks like one, and as a
  list only for the two keys that hold lists.
-/

namespace ResourcePack

open Settings (Value)

/- The names and values of the variables of the environment. -/
abbrev Environment := List (String × String)

namespace Environment

/- The value of a variable. -/
def get?
    (env : Environment)
    (name : String) : Option String :=
  env.lookup name

/- The beginning of the names that matter, in lower case. -/
def marker : List Char :=
  "genrsrc__".toList

/- Every `__`, from the left, as a dot. -/
def dotted : List Char → List Char
  | '_' :: '_' :: rest => '.' :: dotted rest
  | c :: rest => c :: dotted rest
  | [] => []

/- The key that a variable sets. -/
def key?
    (name : String) : Option String :=
  let cs := (Text.lowerCase name).toList
  if marker.isPrefixOf cs then
    some (String.ofList (dotted (cs.drop marker.length)))
  else
    none

/- The keys whose values are lists. -/
def listKeys : List String :=
  ["search", "includes"]

/- A truth value, in letters of any case. -/
def bool?
    (text : String) : Option Bool :=
  match Text.lowerCase text with
  | "true" => some true
  | "false" => some false
  | _ => none

/- The value that a text stands for. -/
def value
    (key text : String) : Value :=
  match bool? text, Decimal.int64? text.toList, Double.ofText? text.toList with
  | some b, _, _ => .bool b
  | none, some n, _ => .int n
  | none, none, some x => .real x
  | none, none, none =>
    if listKeys.contains key then
      .list ((Text.splitOn ',' text).map .text)
    else
      .text text

/- The settings that the environment makes. -/
def settings
    (env : Environment) : List (String × Value) :=
  env.filterMap fun (name, text) => (key? name).map fun key => (key, value key text)

end Environment

end ResourcePack
