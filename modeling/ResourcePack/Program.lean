import ResourcePack.CommandLine.Help
import ResourcePack.Config.Load
import ResourcePack.Generation
import ResourcePack.Log.Logger

/-
  The program: from arguments to an exit code.

  Key definitions include:
    * `ResourcePack.Program.configure`
    * `ResourcePack.Program.execute`
    * `ResourcePack.Program.logged`
    * `ResourcePack.Program.run`

  The arguments are read first, then the configuration is loaded
  and overruled by them, then the log is set up, and then the run
  is made and its report printed.  A failure is told on the
  standard error and ends the program with the code 1; arguments
  that cannot be read end it with the code 2.
-/

------------------------------------------------------------
-- Steps
------------------------------------------------------------

namespace ResourcePack

namespace Program

variable {m : Type → Type} [Monad m] [Workspace m]

/- The configuration of a call: what is loaded, with the arguments over it. -/
def configure
    (env : Environment)
    (i : Invocation) : ExceptT Error m Config := do
  return i.apply (← Config.load env i.configFile)

/-
  A report in the form that is asked for.  A text would have colours
  on a terminal only, if they are configured and not refused by the
  environment; the standard output is taken to be none.
-/
def shownReport
    (format : ReportFormat)
    (r : Report) : String :=
  match format with
  | .text => r.text false
  | .json => r.json
  | .none => ""

/- Make the run that is asked for; the answer is the text to print. -/
def execute
    [Journal m]
    (i : Invocation)
    (c : Config) : ExceptT Error m String := do
  let request ← MonadExcept.ofExcept i.request
  Generation.note (.started request.resources.length)
  return shownReport i.report (← Generation.generate request c)

end Program

end ResourcePack

------------------------------------------------------------
-- The Whole Program
------------------------------------------------------------

namespace ResourcePack

namespace Program

variable {m : Type → Type} [Monad m] [Workspace m] [Console m]

/- What is told of a failure, and the exit code. -/
def failed
    (message : String) : m Nat := do
  Console.complain ("Error: " ++ message ++ "\n")
  return 1

/- Make the run of an invocation with a log. -/
def logged
    (i : Invocation)
    (c : Config)
    (l : Log.Logger) : m Nat := do
  match ← ((execute i c : ExceptT Error (Logged m) String).run).run l with
  | .error e => failed e.chain
  | .ok text =>
    if text ≠ "" then
      Console.print (text ++ "\n")
    return 0

/- The program for arguments that could be read. -/
def runInvocation
    (env : Environment)
    (i : Invocation) : m Nat := do
  match ← (configure env i : ExceptT Error m Config).run with
  | .error e => failed ("Failed to load configuration: " ++ e.chain)
  | .ok c =>
    match ← (Log.setUp env c.log : ExceptT Error m Log.Logger).run with
    | .error e => failed ("Failed to initialize logging: " ++ e.chain)
    | .ok l => logged i c l

/- The program, up to its exit code. -/
def run
    (env : Environment)
    (args : List String) : m Nat := do
  match CommandLine.parse args with
  | .error .displayHelp =>
    Console.print CommandLine.help
    return 0
  | .error refusal =>
    Console.complain ("error: " ++ refusal.message ++ "\n")
    return 2
  | .ok i => runInvocation env i

end Program

end ResourcePack
