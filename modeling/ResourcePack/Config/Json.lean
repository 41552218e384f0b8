import ResourcePack.Config
import ResourcePack.Decimal
import ResourcePack.Json

/-
  The JSON form of a configuration.

  Key definitions include:
    * `ResourcePack.Config.toJson`
    * `ResourcePack.Config.ofJson?`

  A configuration is written as an object with every field.  It is
  read from an object in which fields may be missing, which gives
  them their defaults, and unknown ones are passed over; or from a
  list of the fields in their order, whose end may be missing.
  Values have to be of the field's own type.
-/

------------------------------------------------------------
-- Writing
------------------------------------------------------------

namespace ResourcePack

namespace Config

def optionJson : Option String → Json
  | none => .null
  | some s => .text s

def textsJson
    (texts : List String) : Json :=
  .list (texts.map .text)

def orderName : Order → String
  | .insertion => "insertion"
  | .sorted => "sorted"

def policyName : Policy → String
  | .reject => "reject"
  | .escape => "escape"

def logToJson
    (l : LogConfig) : Json :=
  .object [
    ("enabled", .bool l.enabled),
    ("level", .text l.level),
    ("format", .text l.format),
    ("output", .text l.output),
    ("file", optionJson l.file),
    ("color", .bool l.color),
    ("modules", .object (l.modules.map fun m => (m.1, .text m.2)))]

/- The object of a configuration, with all its fields. -/
def toJson
    (c : Config) : Json :=
  .object [
    ("prefix", .text c.symbolPrefix),
    ("namespace", .text c.scope),
    ("guard", .text c.guard),
    ("resource_class", optionJson c.resourceClass),
    ("includes", textsJson c.includes),
    ("search", textsJson c.search),
    ("align", .int c.align),
    ("order", .text (orderName c.order)),
    ("symbol_policy", .text (policyName c.policy)),
    ("logging", logToJson c.log)]

end Config

end ResourcePack

------------------------------------------------------------
-- Reading Values
------------------------------------------------------------

namespace ResourcePack

namespace Config

def text? : Json → Option String
  | .text s => some s
  | _ => none

def bool? : Json → Option Bool
  | .bool b => some b
  | _ => none

def optionText? : Json → Option (Option String)
  | .null => some none
  | .text s => some (some s)
  | _ => none

def texts? : Json → Option (List String)
  | .list items => items.mapM text?
  | _ => none

/- A whole number below 2^32. -/
def word? : Json → Option Nat
  | .int n => if Decimal.isWord32 n then some n.toNat else none
  | _ => none

def textMap? : Json → Option (List (String × String))
  | .object fields => fields.mapM fun f => (text? f.2).map fun s => (f.1, s)
  | _ => none

/-
  One of several named choices: its name, or an object that has
  this one key with the value null.
-/
def choice?
    {α : Type}
    (choices : List (String × α)) : Json → Option α
  | .text s => (choices.find? fun c => c.1 = s).map Prod.snd
  | .object [(s, .null)] => (choices.find? fun c => c.1 = s).map Prod.snd
  | _ => none

def orders : List (String × Order) :=
  [("insertion", .insertion), ("sorted", .sorted)]

def policies : List (String × Policy) :=
  [("reject", .reject), ("escape", .escape)]

def order? : Json → Option Order :=
  choice? orders

def policy? : Json → Option Policy :=
  choice? policies

end Config

end ResourcePack

------------------------------------------------------------
-- Reading Configurations
------------------------------------------------------------

namespace ResourcePack

namespace Config

def logFieldNames : List String :=
  ["enabled", "level", "format", "output", "file", "color", "modules"]

def fieldNames : List String :=
  ["prefix", "namespace", "guard", "resource_class", "includes", "search", "align", "order",
    "symbol_policy", "logging"]

/- The fields of an object, or of a list that gives them in order. -/
def members?
    (names : List String) : Json → Option (List (String × Json))
  | .object fields => some fields
  | .list items => if items.length ≤ names.length then some (names.zip items) else none
  | _ => none

/- A field as it is given, or its default. -/
def fieldOr?
    {α : Type}
    (fields : List (String × Json))
    (name : String)
    (read : Json → Option α)
    (default : α) : Option α :=
  match Json.member? fields name with
  | some j => read j
  | none => some default

def logOfJson?
    (j : Json) : Option LogConfig := do
  let fields ← members? logFieldNames j
  let enabled ← fieldOr? fields "enabled" bool? LogConfig.defaultTrue
  let level ← fieldOr? fields "level" text? LogConfig.defaultLevel
  let format ← fieldOr? fields "format" text? LogConfig.defaultFormat
  let output ← fieldOr? fields "output" text? LogConfig.defaultOutput
  let file ← fieldOr? fields "file" optionText? none
  let color ← fieldOr? fields "color" bool? LogConfig.defaultTrue
  let modules ← fieldOr? fields "modules" textMap? []
  return { enabled, level, format, output, file, color, modules }

/- The configuration that a JSON value stands for. -/
def ofJson?
    (j : Json) : Option Config := do
  let fields ← members? fieldNames j
  let d : Config := {}
  let symbolPrefix ← fieldOr? fields "prefix" text? d.symbolPrefix
  let scope ← fieldOr? fields "namespace" text? d.scope
  let guard ← fieldOr? fields "guard" text? d.guard
  let resourceClass ← fieldOr? fields "resource_class" optionText? d.resourceClass
  let includes ← fieldOr? fields "includes" texts? d.includes
  let search ← fieldOr? fields "search" texts? d.search
  let align ← fieldOr? fields "align" word? d.align
  let order ← fieldOr? fields "order" order? d.order
  let policy ← fieldOr? fields "symbol_policy" policy? d.policy
  let log ← fieldOr? fields "logging" logOfJson? d.log
  return { symbolPrefix, scope, guard, resourceClass, includes, search, align, order, policy, log }

end Config

end ResourcePack
