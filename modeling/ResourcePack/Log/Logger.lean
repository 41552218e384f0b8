import ResourcePack.Config
import ResourcePack.Log.Filter
import ResourcePack.Log.Line
import ResourcePack.Settings.Environment
import ResourcePack.Workspace

/-
  Logging, set up from a configuration and the environment.

  Key definitions include:
    * `ResourcePack.Log.path`
    * `ResourcePack.Log.filter`
    * `ResourcePack.Log.Sink`
    * `ResourcePack.Log.Logger`
    * `ResourcePack.Log.setUp`
    * `ResourcePack.Log.Logger.record`

  The environment goes before the configuration in every choice
  about the log.  The file of a log is opened once, so that a file
  that cannot be written is found before anything else is done;
  later faults in writing to it are passed over.
-/

------------------------------------------------------------
-- Choices
------------------------------------------------------------

namespace ResourcePack

namespace Log

/- A text that is given and not empty. -/
def nonempty
    (text : Option String) : Option String :=
  text.filter (· ≠ "")

/-
  The directory for the state of programs.  The only home here is
  that of the variable: no database of users is asked for another,
  and where there is none at all a directory that is set still
  counts.
-/
def stateDirectory?
    (env : Environment) : Option String :=
  match (env.get? "XDG_STATE_HOME").filter fun path => Path.isAbsolute path with
  | some directory => some directory
  | none => (nonempty (env.get? "HOME")).map fun home => Path.join home ".local/state"

/-
  The file of a log: the one of the command line, of the variable,
  of the configuration, or the usual one.
-/
def path
    (env : Environment)
    (given configured : Option String) : Except Error String :=
  match nonempty given <|> nonempty (env.get? "GENRSRC_LOG_FILE") <|> nonempty configured with
  | some path => .ok path
  | none =>
    match stateDirectory? env with
    | some directory => .ok (Path.join (Path.join directory "genrsrc") "genrsrc.log")
    | none => .error (.config .noLogDirectory)

/- A filter with a directive for a module. -/
def addModule
    (f : Filter)
    (m : String × String) : Except Error Filter :=
  match Directive.parse (m.1 ++ "=" ++ m.2) with
  | .ok d => .ok (f.add d)
  | .error fault => .error (.config (.logDirective fault))

/-
  The filter of a log, and the directives of the configuration that
  are ignored.  A variable that cannot be read is passed over.
-/
def filter
    (env : Environment)
    (c : LogConfig) : Except Error (Filter × List (String × DirectiveFault)) :=
  match (env.get? "GENRSRC_LOG").bind Filter.parse? with
  | some f => .ok (f, [])
  | none =>
    if c.level = "off" then
      .ok (Filter.off, [])
    else
      let (f, ignored) := Filter.parseLossy c.level
      (c.modules.foldlM addModule f).map fun f => (f, ignored)

/- The formats of lines. -/
def isFormat
    (text : String) : Bool :=
  text = "json" || text = "text"

/- Whether lines are JSON. -/
def inJson
    (env : Environment)
    (c : LogConfig) : Except Error Bool :=
  match (env.get? "GENRSRC_LOG_FORMAT").filter fun text => isFormat text with
  | some text => .ok (text = "json")
  | none =>
    if isFormat c.format then .ok (c.format = "json")
    else .error (.config (.logFormat c.format))

/- What a log can be written to. -/
inductive Output where
  | stdout
  | stderr
  | file
  deriving DecidableEq

def Output.ofText
    (text : String) : Except Error Output :=
  if text = "stdout" then .ok .stdout
  else if text = "stderr" then .ok .stderr
  else if text = "file" then .ok .file
  else .error (.config (.logOutput text))

/- What the log is written to. -/
def output
    (env : Environment)
    (c : LogConfig) : Except Error Output :=
  Output.ofText ((env.get? "GENRSRC_LOG_OUTPUT").getD c.output)

end Log

end ResourcePack

------------------------------------------------------------
-- Opening
------------------------------------------------------------

namespace ResourcePack

namespace Log

/- Where lines go. -/
inductive Sink where
  | stdout
  | stderr
  | file (path : String)
  deriving DecidableEq

/- What is shown, how, and where. -/
structure Logger where
  filter : Filter
  style : Style
  sink : Sink
  deriving DecidableEq

/- The logger that shows nothing. -/
def silent : Logger :=
  ⟨Filter.off, .text false, .stderr⟩

variable {m : Type → Type} [Monad m] [Workspace m] [Console m]

/- Say which directives are ignored. -/
def complainAll : List (String × DirectiveFault) → m Unit
  | [] => pure ()
  | (text, fault) :: rest => do
    Console.complain ("ignoring \x60" ++ text ++ "\x60: " ++ fault.message ++ "\n")
    complainAll rest

/- Open the file of a log, in a directory that is made if need be. -/
def openFile
    (path : String) : ExceptT Error m Sink := do
  match Path.parent? path with
  | some directory =>
    match ← (Workspace.makeDirectories directory : m _) with
    | .error fault => throw (.config (.logDirectory fault))
    | .ok () => pure ()
  | none => pure ()
  match ← (Workspace.append path "" : m _) with
  | .error fault => throw (.config (.logFile path fault))
  | .ok () => return .file path

/- The place that lines go to. -/
def openSink
    (env : Environment)
    (c : LogConfig) : Output → ExceptT Error m Sink
  | .stdout => return .stdout
  | .stderr => return .stderr
  | .file => do openFile (← MonadExcept.ofExcept (path env none c.file))

/- Set up the log. -/
def setUp
    (env : Environment)
    (c : LogConfig) : ExceptT Error m Logger := do
  if !c.enabled then
    return silent
  let (f, ignored) ← MonadExcept.ofExcept (filter env c)
  (complainAll ignored : m Unit)
  let json ← MonadExcept.ofExcept (inJson env c)
  let out ← MonadExcept.ofExcept (output env c)
  let sink ← openSink env c out
  return ⟨f, if json then .json else .text (c.color && out ≠ .file), sink⟩

/- Write the line of an event, if it is shown. -/
def Logger.record
    (l : Logger)
    (e : Event) : m Unit := do
  if l.filter.shows e then
    let text := line l.style (← Console.stamp) e
    match l.sink with
    | .stdout => Console.print text
    | .stderr => Console.complain text
    | .file path =>
      let _ ← Workspace.append path text
      pure ()

end Log

end ResourcePack

------------------------------------------------------------
-- Runs with a Log
------------------------------------------------------------

namespace ResourcePack

/- A run that notes its events with a logger. -/
abbrev Logged (m : Type → Type) :=
  ReaderT Log.Logger m

variable {m : Type → Type}

instance [Workspace m] : Workspace (Logged m) where
  isFile path := fun _ => Workspace.isFile path
  size path := fun _ => Workspace.size path
  canonical path := fun _ => Workspace.canonical path
  read path := fun _ => Workspace.read path
  write path text := fun _ => Workspace.write path text
  append path text := fun _ => Workspace.append path text
  makeDirectories path := fun _ => Workspace.makeDirectories path

instance [Monad m] [Workspace m] [Console m] : Journal (Logged m) where
  note e := fun l => l.record e

end ResourcePack
