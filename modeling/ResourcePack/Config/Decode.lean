import ResourcePack.Config.Json
import ResourcePack.Double.Shortest
import ResourcePack.Settings.Value
import ResourcePack.Text.LowerCase

/-
  From settings to a configuration.

  Key definitions include:
    * `ResourcePack.Settings.Value.toText?`
    * `ResourcePack.Settings.Value.toBool?`
    * `ResourcePack.Settings.Value.toWord?`
    * `ResourcePack.Settings.Value.toChoice?`
    * `ResourcePack.Config.ofSettings`

  Each field converts what it is given, as far as that makes sense:
  a number can be a text, and a text can be a number or a truth
  value.  A field that is not set has its default, and settings of
  no field are passed over.
-/

------------------------------------------------------------
-- Conversions
------------------------------------------------------------

namespace ResourcePack

namespace Settings

namespace Value

/- A scalar as a text. -/
def toText? : Value → Option String
  | bool b => some (if b then "true" else "false")
  | int n => some (toString n)
  | real x => some x.text
  | text s => some s
  | _ => none

/- A text that may be missing. -/
def toOptionText? : Value → Option (Option String)
  | nil => some none
  | v => (toText? v).map some

def trueWords : List String :=
  ["true", "on", "yes"]

def falseWords : List String :=
  ["false", "off", "no"]

/- A truth value: itself, a number other than 0, or a word. -/
def toBool? : Value → Option Bool
  | bool b => some b
  | int n => some (n ≠ 0)
  | real x => some (!x.isZero)
  | text s =>
    let word := Text.lowerCase s
    if trueWords.contains word || word = "1" then some true
    else if falseWords.contains word || word = "0" then some false
    else none
  | _ => none

/- A natural number below 2^64. -/
def toNat? : Value → Option Nat
  | bool b => some b.toNat
  | int n => if 0 ≤ n then some n.toNat else none
  | real x => (x.toNat?).filter (Decimal.isWord64 ·)
  | text s =>
    let word := Text.lowerCase s
    if trueWords.contains word then some 1
    else if falseWords.contains word then some 0
    else (Decimal.natural? s.toList).filter (Decimal.isWord64 ·)
  | _ => none

/- A natural number below 2^32. -/
def toWord?
    (v : Value) : Option Nat :=
  v.toNat?.filter (Decimal.isWord32 ·)

/- A list of texts. -/
def toTexts? : Value → Option (List String)
  | list items => items.mapM toText?
  | _ => none

/- A table of texts. -/
def toTextMap? : Value → Option (List (String × String))
  | table fields => fields.mapM fun f => f.2.toText?.map fun s => (f.1, s)
  | _ => none

/-
  One of several named choices: its name in letters of any case, or
  a table whose only field has that name.
-/
def toChoice?
    {α : Type}
    (choices : List (String × α)) : Value → Option α
  | text s => choices.lookup (Text.lowerCase s)
  | table [(name, _)] => choices.lookup (Text.lowerCase name)
  | _ => none

end Value

end Settings

end ResourcePack

------------------------------------------------------------
-- Fields
------------------------------------------------------------

namespace ResourcePack

namespace Config

open Settings (Value)

/- A field as it is set, or its default. -/
def setting
    {α : Type}
    (fields : List (String × Value))
    (name : String)
    (read : Value → Option α)
    (default : α) : Except Error α :=
  match fields.lookup name with
  | none => .ok default
  | some v =>
    match read v with
    | some a => .ok a
    | none => .error (.config (.mistyped name))

/- The fields of a table, or of a list that gives them in order. -/
def settingFields?
    (names : List String) : Value → Option (List (String × Value))
  | .table fields => some fields
  | .list items => some (names.zip items)
  | _ => none

/- What is logged, from the fields of its table. -/
def logOfFields
    (fields : List (String × Value)) : Except Error LogConfig := do
  let enabled ← setting fields "enabled" Value.toBool? LogConfig.defaultTrue
  let level ← setting fields "level" Value.toText? LogConfig.defaultLevel
  let format ← setting fields "format" Value.toText? LogConfig.defaultFormat
  let output ← setting fields "output" Value.toText? LogConfig.defaultOutput
  let file ← setting fields "file" Value.toOptionText? none
  let color ← setting fields "color" Value.toBool? LogConfig.defaultTrue
  let modules ← setting fields "modules" Value.toTextMap? []
  return { enabled, level, format, output, file, color, modules }

/- What is logged, from its table, if there is one. -/
def logOfTable : Option (List (String × Value)) → Except Error LogConfig
  | none => .ok {}
  | some fields => logOfFields fields

/- The configuration that settings make. -/
def ofSettings
    (v : Value) : Except Error Config := do
  let fields := v.fields
  let d : Config := {}
  let symbolPrefix ← setting fields "prefix" Value.toText? d.symbolPrefix
  let scope ← setting fields "namespace" Value.toText? d.scope
  let guard ← setting fields "guard" Value.toText? d.guard
  let resourceClass ← setting fields "resource_class" Value.toOptionText? d.resourceClass
  let includes ← setting fields "includes" Value.toTexts? d.includes
  let search ← setting fields "search" Value.toTexts? d.search
  let align ← setting fields "align" Value.toWord? d.align
  let order ← setting fields "order" (Value.toChoice? orders) d.order
  let policy ← setting fields "symbol_policy" (Value.toChoice? policies) d.policy
  let table ← setting fields "logging" (fun v => (settingFields? logFieldNames v).map some) none
  let log ← logOfTable table
  return { symbolPrefix, scope, guard, resourceClass, includes, search, align, order, policy, log }

end Config

end ResourcePack
