import ResourcePack.Header
import ResourcePack.Text.Blank

/-
  The configuration of a run.

  Key definitions include:
    * `ResourcePack.LogConfig`
    * `ResourcePack.Config`
    * `ResourcePack.Config.headerOptions`
    * `ResourcePack.Config.validate`

  Every field has a default, given with its type.  The fields of
  logging settings have theirs one by one; whatever else is left out
  is as in an empty configuration.  A configuration can be used when
  it names a search directory and a resource class, aligns to a
  power of two, and has valid header options.
-/

------------------------------------------------------------
-- Fields and Defaults
------------------------------------------------------------

namespace ResourcePack

namespace LogConfig

/- What single fields are where they are left out. -/
def defaultTrue : Bool :=
  true

def defaultLevel : String :=
  "warn"

def defaultFormat : String :=
  "text"

def defaultOutput : String :=
  "stderr"

end LogConfig

/- What is logged, how, and where to. -/
structure LogConfig where
  enabled : Bool := LogConfig.defaultTrue
  level : String := LogConfig.defaultLevel
  format : String := LogConfig.defaultFormat
  output : String := LogConfig.defaultOutput
  file : Option String := none
  color : Bool := LogConfig.defaultTrue
  modules : List (String × String) := []
  deriving DecidableEq, Inhabited

/- Everything a run can be told. -/
structure Config where
  symbolPrefix : String := ""
  scope : String := "resource"
  guard : String := "_GENERATED_RESOURCES_H"
  resourceClass : Option String := none
  includes : List String := []
  search : List String := []
  align : Nat := 4
  order : Order := .insertion
  policy : Policy := .reject
  log : LogConfig := {}
  deriving DecidableEq

instance : Inhabited Config :=
  ⟨{}⟩

end ResourcePack

------------------------------------------------------------
-- Validation
------------------------------------------------------------

namespace ResourcePack

namespace Config

/- Whether a number is a power of two. -/
def isPowerOfTwo
    (n : Nat) : Bool :=
  n ≠ 0 && Nat.pow 2 n.log2 = n

/- The options of the header; a class has to be named. -/
def headerOptions
    (c : Config) : Except Error HeaderOptions :=
  match c.resourceClass with
  | some resourceClass =>
    if Text.allBlank resourceClass then
      .error (.config .noResourceClass)
    else
      .ok ⟨c.scope, c.guard, c.includes, resourceClass, c.order⟩
  | none => .error (.config .noResourceClass)

/- Check what a run depends on. -/
def validate
    (c : Config) : Except Error Unit := do
  if c.search.isEmpty then
    throw (.config .noSearchDirectory)
  if !isPowerOfTwo c.align then
    throw (.config (.badAlignment c.align))
  let options ← c.headerOptions
  options.validate

end Config

end ResourcePack
