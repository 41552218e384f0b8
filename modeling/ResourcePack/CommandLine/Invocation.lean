import ResourcePack.Config
import ResourcePack.Report

/-
  What a command line asks for.

  Key definitions include:
    * `ResourcePack.Request`
    * `ResourcePack.Invocation`
    * `ResourcePack.Invocation.apply`
    * `ResourcePack.Invocation.request`

  An invocation holds the settings that were given as arguments.
  They overrule the configuration field by field; a setting that
  was not given leaves its field alone.
-/

namespace ResourcePack

/- The resources of one run and the files it writes. -/
structure Request where
  resources : List String
  asm : String
  header : String
  deriving DecidableEq, Inhabited

/- The arguments of one call, read. -/
structure Invocation where
  resources : List String := []
  outputs : List String := []
  symbolPrefix : Option String := none
  search : List String := []
  scope : Option String := none
  guard : Option String := none
  includes : List String := []
  resourceClass : Option String := none
  configFile : Option String := none
  sorted : Bool := false
  escapeSymbols : Bool := false
  align : Option Nat := none
  report : ReportFormat := .text
  verbose : Bool := false
  logLevel : Option String := none
  logFormat : Option String := none
  logOutput : Option String := none
  logFile : Option String := none
  deriving DecidableEq, Inhabited

namespace Invocation

/- The list that was given, or the one in force if none was. -/
def listOr
    (given : List String)
    (default : List String) : List String :=
  if given.isEmpty then default else given

/- The level that was asked for; an explicit one goes first. -/
def level?
    (i : Invocation) : Option String :=
  match i.logLevel with
  | some level => some level
  | none => if i.verbose then some "debug" else none

/- The logging settings with the arguments over them. -/
def applyLog
    (i : Invocation)
    (l : LogConfig) : LogConfig :=
  { l with
    level := i.level?.getD l.level
    format := i.logFormat.getD l.format
    output := i.logOutput.getD l.output
    file := i.logFile.or l.file }

/- A configuration with the arguments over it. -/
def apply
    (i : Invocation)
    (c : Config) : Config :=
  { symbolPrefix := i.symbolPrefix.getD c.symbolPrefix
    scope := i.scope.getD c.scope
    guard := i.guard.getD c.guard
    resourceClass := i.resourceClass.or c.resourceClass
    includes := listOr i.includes c.includes
    search := listOr i.search c.search
    align := i.align.getD c.align
    order := if i.sorted then .sorted else c.order
    policy := if i.escapeSymbols then .escape else c.policy
    log := i.applyLog c.log }

/- The run that is asked for; it has to name exactly two outputs. -/
def request
    (i : Invocation) : Except Error Request :=
  match i.outputs with
  | [asm, header] => .ok ⟨i.resources, asm, header⟩
  | _ => .error (.config .outputCount)

end Invocation

end ResourcePack
