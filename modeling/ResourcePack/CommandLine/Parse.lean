import ResourcePack.CommandLine.Invocation
import ResourcePack.Decimal

/-
  Reading a command line.

  Key definitions include:
    * `ResourcePack.CommandLine.Setting`
    * `ResourcePack.CommandLine.Flag`
    * `ResourcePack.CommandLine.Refusal`
    * `ResourcePack.CommandLine.Reader`
    * `ResourcePack.CommandLine.parse`

  An option is long (`--align 8`, `--align=8`) or short (`-S d`,
  `-Sd`, `-S=d`); short flags can be bundled.  After `--` every
  word is a resource, and a lone `-` is a value.  A value that
  stands apart from its option cannot begin with `-`, except for
  the prefix, which takes any word.

  Words are read from left to right.  The values of an option are
  kept until the next option or resource shows that no more follow;
  only then are they counted and stored.
-/

------------------------------------------------------------
-- Options
------------------------------------------------------------

namespace ResourcePack

namespace CommandLine

/- Options that take values. -/
inductive Setting where
  | output
  | symbolPrefix
  | search
  | scope
  | guard
  | includes
  | resourceClass
  | configFile
  | align
  | report
  | logLevel
  | logFormat
  | logOutput
  | logFile
  deriving DecidableEq

/- Options that take none. -/
inductive Flag where
  | sorted
  | escapeSymbols
  | verbose
  deriving DecidableEq

/- What an option name stands for. -/
inductive Switch where
  | setting (s : Setting)
  | flag (f : Flag)
  | help
  deriving DecidableEq

/- The long names. -/
def longNames : List (String × Switch) := [
  ("output", .setting .output),
  ("prefix", .setting .symbolPrefix),
  ("search", .setting .search),
  ("namespace", .setting .scope),
  ("guard", .setting .guard),
  ("include", .setting .includes),
  ("resource-class", .setting .resourceClass),
  ("config", .setting .configFile),
  ("sorted", .flag .sorted),
  ("escape-symbols", .flag .escapeSymbols),
  ("align", .setting .align),
  ("report", .setting .report),
  ("verbose", .flag .verbose),
  ("log-level", .setting .logLevel),
  ("log-format", .setting .logFormat),
  ("log-output", .setting .logOutput),
  ("log-file", .setting .logFile),
  ("help", .help)]

/- The short names. -/
def shortNames : List (Char × Switch) := [
  ('o', .setting .output),
  ('p', .setting .symbolPrefix),
  ('S', .setting .search),
  ('n', .setting .scope),
  ('g', .setting .guard),
  ('I', .setting .includes),
  ('c', .setting .resourceClass),
  ('v', .flag .verbose),
  ('h', .help)]

/- The option of a long name. -/
def long?
    (name : List Char) : Option Switch :=
  (longNames.find? fun n => n.1.toList = name).map Prod.snd

/- The option of a short name. -/
def short?
    (name : Char) : Option Switch :=
  (shortNames.find? fun n => n.1 = name).map Prod.snd

/- How many values an option takes at a time. -/
def Setting.arity : Setting → Nat
  | .output => 2
  | _ => 1

/- Whether the next word is a value whatever it begins with. -/
def Setting.takesAnyWord
    (s : Setting) : Bool :=
  s = .symbolPrefix

/- Whether an option may be given more than once. -/
def Setting.repeatable : Setting → Bool
  | .output | .search | .includes => true
  | _ => false

end CommandLine

end ResourcePack

------------------------------------------------------------
-- Storing Values
------------------------------------------------------------

namespace ResourcePack

namespace CommandLine

/- Why a command line is not carried out. -/
inductive Refusal where
  | unknownArgument
  | invalidValue
  | valueValidation
  | wrongNumberOfValues
  | tooManyValues
  | argumentConflict
  | missingRequiredArgument
  | displayHelp
  deriving DecidableEq

/- A path, which has to have some text. -/
def path
    (value : String) : Except Refusal String :=
  if value = "" then .error .invalidValue else .ok value

/- An alignment: a whole number below 2^32. -/
def alignment
    (value : String) : Except Refusal Nat :=
  match Decimal.integer? value.toList with
  | some n => if Decimal.isWord32 n then .ok n.toNat else .error .valueValidation
  | none => .error .valueValidation

/- The format of the report. -/
def reportFormat : String → Except Refusal ReportFormat
  | "text" => .ok .text
  | "json" => .ok .json
  | "none" => .ok .none
  | _ => .error .invalidValue

/- Put a value of an option into an invocation. -/
def store
    (i : Invocation)
    (s : Setting)
    (value : String) : Except Refusal Invocation :=
  match s with
  | .output => (path value).map fun v => { i with outputs := i.outputs ++ [v] }
  | .symbolPrefix => .ok { i with symbolPrefix := some value }
  | .search => (path value).map fun v => { i with search := i.search ++ [v] }
  | .scope => .ok { i with scope := some value }
  | .guard => .ok { i with guard := some value }
  | .includes => .ok { i with includes := i.includes ++ [value] }
  | .resourceClass => .ok { i with resourceClass := some value }
  | .configFile => (path value).map fun v => { i with configFile := some v }
  | .align => (alignment value).map fun n => { i with align := some n }
  | .report => (reportFormat value).map fun f => { i with report := f }
  | .logLevel => .ok { i with logLevel := some value }
  | .logFormat => .ok { i with logFormat := some value }
  | .logOutput => .ok { i with logOutput := some value }
  | .logFile => (path value).map fun v => { i with logFile := some v }

/- Put several values of an option into an invocation. -/
def storeAll
    (i : Invocation)
    (s : Setting) : List String → Except Refusal Invocation
  | [] => .ok i
  | value :: rest =>
    match store i s value with
    | .ok i' => storeAll i' s rest
    | .error e => .error e

/- Put a flag into an invocation. -/
def raise
    (i : Invocation) : Flag → Invocation
  | .sorted => { i with sorted := true }
  | .escapeSymbols => { i with escapeSymbols := true }
  | .verbose => { i with verbose := true }

end CommandLine

end ResourcePack

------------------------------------------------------------
-- Reading Words
------------------------------------------------------------

namespace ResourcePack

namespace CommandLine

/-
  What has been read: the invocation so far, the options that were
  given, an option whose values are not stored yet, and whether all
  that follows is a resource.
-/
structure Reader where
  invocation : Invocation := {}
  given : List Switch := []
  pending : Option (Setting × List String) := none
  resourcesOnly : Bool := false

namespace Reader

/-
  Store the values of an option: there have to be as many as it
  takes, and only some options can be given again.
-/
def accept
    (r : Reader)
    (s : Setting)
    (values : List String) : Except Refusal Reader :=
  if values.isEmpty then
    .error .invalidValue
  else if values.length ≠ s.arity then
    .error .wrongNumberOfValues
  else if r.given.contains (.setting s) && !s.repeatable then
    .error .argumentConflict
  else
    match storeAll r.invocation s values with
    | .ok i => .ok { r with invocation := i, given := .setting s :: r.given, pending := none }
    | .error e => .error e

/- Store the values of the pending option, if there is one. -/
def settle
    (r : Reader) : Except Refusal Reader :=
  match r.pending with
  | some (s, values) => { r with pending := none }.accept s values
  | none => .ok r

/- The option that can take the next word as a value. -/
def awaiting?
    (r : Reader) : Option Setting :=
  match r.pending with
  | some (s, values) => if values.length < s.arity then some s else none
  | none => none

/- Add a value to the pending option. -/
def addValue
    (r : Reader)
    (s : Setting)
    (word : String) : Reader :=
  { r with pending := some (s, ((r.pending.map Prod.snd).getD []) ++ [word]) }

/- Add a resource. -/
def addResource
    (r : Reader)
    (word : String) : Except Refusal Reader :=
  match r.settle with
  | .ok r =>
    .ok { r with invocation :=
      { r.invocation with resources := r.invocation.resources ++ [word] } }
  | .error e => .error e

/- Raise a flag, once. -/
def addFlag
    (r : Reader)
    (f : Flag) : Except Refusal Reader :=
  match r.settle with
  | .ok r =>
    if r.given.contains (.flag f) then
      .error .argumentConflict
    else
      .ok { r with invocation := raise r.invocation f, given := .flag f :: r.given }
  | .error e => .error e

/- Begin an option that takes values, perhaps with one attached. -/
def addSetting
    (r : Reader)
    (s : Setting)
    (attached : Option (List Char)) : Except Refusal Reader :=
  match r.settle with
  | .ok r =>
    match attached with
    | some value => r.accept s [String.ofList value]
    | none => .ok { r with pending := some (s, []) }
  | .error e => .error e

/- Ask for help, unless what was read before is at fault. -/
def addHelp
    (r : Reader) : Except Refusal Reader :=
  match r.settle with
  | .ok _ => .error .displayHelp
  | .error e => .error e

/- A value attached to a short option, without an `=` before it. -/
def attachedValue : List Char → Option (List Char)
  | [] => none
  | '=' :: rest => some rest
  | rest => some rest

/- Read the letters of a word of short options. -/
def readShort
    (r : Reader) : List Char → Except Refusal Reader
  | [] => .ok r
  | c :: rest =>
    match short? c with
    | some (.setting s) => r.addSetting s (attachedValue rest)
    | some (.flag f) =>
      match r.addFlag f with
      | .ok r => r.readShort rest
      | .error e => .error e
    | some .help => r.addHelp
    | none => .error .unknownArgument

/- A long option's name, and the value after its first `=`. -/
def splitLong
    (text : List Char) : List Char × Option (List Char) :=
  match text.dropWhile fun c => c ≠ '=' with
  | [] => (text, none)
  | _ :: value => (text.takeWhile fun c => c ≠ '=', some value)

/- Read a word of one long option. -/
def readLong
    (r : Reader)
    (text : List Char) : Except Refusal Reader :=
  let (name, value) := splitLong text
  match long? name, value with
  | some (.setting s), value => r.addSetting s value
  | some _, some _ => .error .tooManyValues
  | some (.flag f), none => r.addFlag f
  | some .help, none => r.addHelp
  | none, _ => .error .unknownArgument

/- Read a word that is no option. -/
def readPlain
    (r : Reader)
    (word : String) : Except Refusal Reader :=
  match r.awaiting? with
  | some s => .ok (r.addValue s word)
  | none => r.addResource word

/- Read one word. -/
def read
    (r : Reader)
    (word : String) : Except Refusal Reader :=
  if r.resourcesOnly then
    r.addResource word
  else if (r.awaiting?.map Setting.takesAnyWord).getD false then
    r.readPlain word
  else
    match word.toList with
    | ['-', '-'] => .ok { r with resourcesOnly := true }
    | '-' :: '-' :: text => r.readLong text
    | ['-'] => r.readPlain word
    | '-' :: text => r.readShort text
    | _ => r.readPlain word

/- Read words from left to right. -/
def readAll
    (r : Reader) : List String → Except Refusal Reader
  | [] => .ok r
  | word :: rest =>
    match r.read word with
    | .ok r => r.readAll rest
    | .error e => .error e

end Reader

/- Read a command line; it has to name its outputs. -/
def parse
    (words : List String) : Except Refusal Invocation :=
  match ({} : Reader).readAll words with
  | .ok r =>
    match r.settle with
    | .ok r =>
      if r.given.contains (.setting .output) then
        .ok r.invocation
      else
        .error .missingRequiredArgument
    | .error e => .error e
  | .error e => .error e

end CommandLine

end ResourcePack
