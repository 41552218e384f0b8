import ResourcePack.Program
import ResourcePack.Proofs.CommandLine.Reading
import ResourcePack.Proofs.Generation.Run
import ResourcePack.Transcript

/-
  The file that the log of a run is written to.

  Key definitions include:
    * `ResourcePack.Log.chosen`
    * `ResourcePack.Log.fileVariable?`
    * `ResourcePack.Log.setUpFile`
    * `ResourcePack.Program.withLog`

  Main declarations:
    * `ResourcePack.Log.path_eq_chosen`
    * `ResourcePack.Log.chosen_swap_iff`
    * `ResourcePack.Log.returns_setUpFile`
    * `ResourcePack.Program.log_file_of_run`

  The file can be named by an argument, by a variable, and by the
  configuration.  The arguments are laid over the configuration
  before the log is set up, and what sets it up looks for the file
  in the variable and in that configuration: the variable goes before
  the argument.
-/

------------------------------------------------------------
-- The Choice of a File
------------------------------------------------------------

namespace ResourcePack

namespace Log

/- The usual file of a log, in the directory for states. -/
def usual
    (env : Environment) : Except Error String :=
  match stateDirectory? env with
  | some directory =>
    .ok (Path.join (Path.join directory "genrsrc") "genrsrc.log")
  | none => .error (.config .noLogDirectory)

/- The first file that is named, or the usual one. -/
def chosen
    (env : Environment)
    (named : List (Option String)) : Except Error String :=
  match named.findSome? nonempty with
  | some path => .ok path
  | none => usual env

/- The variable that names the file of a log. -/
def fileVariable?
    (env : Environment) : Option String :=
  env.get? "GENRSRC_LOG_FILE"

/- What is given goes first, then the variable, then the configuration. -/
theorem path_eq_chosen
    (env : Environment)
    (given configured : Option String) :
    path env given configured =
      chosen env [given, fileVariable? env, configured] := by
  unfold path chosen usual fileVariable?
  simp only [List.findSome?_cons, List.findSome?_nil]
  cases nonempty given <;> cases nonempty (env.get? "GENRSRC_LOG_FILE") <;>
    cases nonempty configured <;> rfl

theorem chosen_cons_none
    (env : Environment)
    {file : Option String}
    (hFile : nonempty file = none)
    (rest : List (Option String)) :
    chosen env (file :: rest) = chosen env rest := by
  unfold chosen
  rw [List.findSome?_cons, hFile]

theorem chosen_cons_some
    (env : Environment)
    {file : Option String}
    {name : String}
    (hFile : nonempty file = some name)
    (rest : List (Option String)) :
    chosen env (file :: rest) = .ok name := by
  unfold chosen
  rw [List.findSome?_cons, hFile]

/- Of a file over another one, only the upper is seen unless it is missing. -/
theorem chosen_or
    (env : Environment)
    {upper lower : Option String}
    (hUpper : upper ≠ some "")
    (before : Option String) :
    chosen env [before, upper.or lower] =
      chosen env [before, upper, lower] := by
  have hSame : chosen env [upper.or lower] = chosen env [upper, lower] := by
    cases upper with
    | none => rw [Option.none_or, @chosen_cons_none env none rfl]
    | some name =>
      have hName : nonempty (some name) = some name := by
        have hNe : name ≠ "" := fun hEmpty => hUpper (hEmpty ▸ rfl)
        simp [nonempty, hNe]
      rw [Option.some_or, chosen_cons_some env hName,
        chosen_cons_some env hName]
  cases hBefore : nonempty before with
  | none =>
    rw [chosen_cons_none env hBefore, chosen_cons_none env hBefore, hSame]
  | some name =>
    rw [chosen_cons_some env hBefore, chosen_cons_some env hBefore]

/-
  The order of the first two is of no account exactly if they do not
  name different files.
-/
theorem chosen_swap_iff
    (env : Environment)
    (first second : Option String)
    (rest : List (Option String)) :
    chosen env (first :: second :: rest) =
        chosen env (second :: first :: rest) ↔
      ∀ a b, nonempty first = some a → nonempty second = some b →
        a = b := by
  cases hFirst : nonempty first with
  | none =>
    refine iff_of_true ?_ nofun
    cases hSecond : nonempty second with
    | none =>
      rw [chosen_cons_none env hFirst, chosen_cons_none env hSecond,
        chosen_cons_none env hSecond, chosen_cons_none env hFirst]
    | some b =>
      rw [chosen_cons_none env hFirst, chosen_cons_some env hSecond,
        chosen_cons_some env hSecond]
  | some a =>
    cases hSecond : nonempty second with
    | none =>
      refine iff_of_true ?_ nofun
      rw [chosen_cons_some env hFirst, chosen_cons_none env hSecond,
        chosen_cons_some env hFirst]
    | some b =>
      rw [chosen_cons_some env hFirst, chosen_cons_some env hSecond,
        Except.ok.injEq]
      constructor
      · rintro rfl a' b' hA hB
        exact (Option.some.inj hA).symm.trans (Option.some.inj hB)
      · intro hSame
        exact hSame a b rfl rfl

end Log

end ResourcePack

------------------------------------------------------------
-- Opening the File
------------------------------------------------------------

namespace ResourcePack

namespace Log

open Generation (Returns returns_bind_iff returns_pure_iff
  returns_ofExcept_iff returns_lift_iff not_returns_throw)

section Programs

variable {m : Type → Type} [Monad m] [Workspace m]

/- Set up a log that is written to a file. -/
def setUpFile
    [Console m]
    (env : Environment)
    (c : LogConfig)
    (file : Except Error String) : ExceptT Error m Logger := do
  let (f, ignored) ← MonadExcept.ofExcept (filter env c)
  (complainAll ignored : m Unit)
  let json ← MonadExcept.ofExcept (inJson env c)
  let sink ← openFile (← MonadExcept.ofExcept file)
  return ⟨f, if json then .json else .text false, sink⟩

/-
  A log that goes to a file goes to the one of the variable, or else
  to that of the configuration.
-/
theorem setUp_eq
    [Console m]
    [LawfulMonad m]
    {env : Environment}
    {c : LogConfig}
    (hEnabled : c.enabled = true)
    (hOutput : output env c = .ok .file) :
    (setUp env c : ExceptT Error m Logger) =
      setUpFile env c (chosen env [fileVariable? env, c.file]) := by
  have hPath : path env none c.file =
      chosen env [fileVariable? env, c.file] := by
    rw [path_eq_chosen, chosen_cons_none env rfl]
  unfold setUp setUpFile
  rw [hEnabled, hOutput, ← hPath]
  simp [openSink, MonadExcept.ofExcept]

/- Open a file in a directory that is there, by adding nothing to it. -/
def openAt
    (path : String) : ExceptT Error m Sink := do
  match ← (Workspace.append path "" : m _) with
  | .error fault => throw (.config (.logFile path fault))
  | .ok () => return .file path

end Programs

variable {σ : Type} [Workspace (StateM σ)]

theorem returns_openAt
    {path : String}
    {s s' : σ}
    {sink : Sink}
    (hOpen : Returns (openAt path) s sink s') :
    (Workspace.append path "" : StateM σ _).run s = (.ok (), s') ∧
      sink = .file path := by
  rcases returns_bind_iff.mp hOpen with ⟨result, s₁, hRun, hEnd⟩
  cases result with
  | error fault => exact absurd hEnd not_returns_throw
  | ok done =>
    rcases returns_pure_iff.mp hEnd with ⟨rfl, rfl⟩
    exact ⟨returns_lift_iff.mp hRun, rfl⟩

/- A file that is opened is the one that is asked for. -/
theorem returns_openFile
    {path : String}
    {s s' : σ}
    {sink : Sink}
    (hOpen : Returns (openFile path) s sink s') :
    ∃ s₁, (Workspace.append path "" : StateM σ _).run s₁ = (.ok (), s') ∧
      sink = .file path := by
  unfold openFile at hOpen
  split at hOpen
  · rcases returns_bind_iff.mp hOpen with ⟨result, s₁, -, hRest⟩
    cases result with
    | error fault =>
      rcases returns_bind_iff.mp hRest with ⟨u, s₂, hThrow, hNever⟩
      exact absurd hThrow not_returns_throw
    | ok done => exact ⟨s₁, returns_openAt hRest⟩
  · exact ⟨s, returns_openAt hOpen⟩

/-
  A log that is set up for a file has opened that file, and its lines
  go there.
-/
theorem returns_setUpFile
    [Console (StateM σ)]
    {env : Environment}
    {c : LogConfig}
    {file : Except Error String}
    {s s' : σ}
    {l : Logger}
    (hSetUp : Returns (setUpFile env c file) s l s') :
    ∃ path, file = .ok path ∧ l.sink = .file path ∧
      ∃ s₁, (Workspace.append path "" : StateM σ _).run s₁ =
        (.ok (), s') := by
  unfold setUpFile at hSetUp
  rcases returns_bind_iff.mp hSetUp with ⟨⟨f, ignored⟩, s₁, -, hSetUp⟩
  rcases returns_bind_iff.mp hSetUp with ⟨-, s₂, -, hSetUp⟩
  rcases returns_bind_iff.mp hSetUp with ⟨json, s₃, -, hSetUp⟩
  rcases returns_bind_iff.mp hSetUp with ⟨path, s₄, hFile, hSetUp⟩
  rcases returns_bind_iff.mp hSetUp with ⟨sink, s₅, hOpen, hEnd⟩
  rcases returns_pure_iff.mp hEnd with ⟨rfl, rfl⟩
  rcases returns_ofExcept_iff.mp hFile with ⟨rfl, -⟩
  rcases returns_openFile hOpen with ⟨s₆, hAppend, rfl⟩
  exact ⟨path, rfl, rfl, s₆, hAppend⟩

end Log

end ResourcePack

------------------------------------------------------------
-- Runs with a Log File
------------------------------------------------------------

namespace ResourcePack

namespace Program

open Generation (Returns returns_bind_iff returns_pure_iff
  exists_returns_and)

variable {m : Type → Type} [Monad m] [Workspace m] [Console m]

/- The rest of a run, which begins by setting up its log. -/
def withLog
    (i : Invocation)
    (c : Config)
    (setUp : ExceptT Error m Log.Logger) : m Nat := do
  match ← setUp.run with
  | .error e => failed ("Failed to initialize logging: " ++ e.chain)
  | .ok l => logged i c l

variable {σ : Type} [Workspace (StateM σ)] [Console (StateM σ)]

/-
  A run whose arguments are read and whose configuration is loaded
  goes on with setting up its log.
-/
theorem run_eq
    {env : Environment}
    {args : List String}
    {i : Invocation}
    {s s₁ : σ}
    {c : Config}
    (hParse : CommandLine.parse args = .ok i)
    (hConfigure : Returns (configure env i) s c s₁) :
    (run env args : StateM σ Nat).run s =
      (withLog i c (Log.setUp env c.log) : StateM σ Nat).run s₁ := by
  have hRun : (run env args : StateM σ Nat).run s =
      (runInvocation env i : StateM σ Nat).run s := by
    unfold run
    rw [hParse]
  rw [hRun]
  unfold runInvocation
  rw [StateT.run_bind, show _ = _ from hConfigure]
  rfl

/-
  A run whose log is on and goes to a file opens the file that the
  variable names, or else that of the argument, of the configuration,
  or the usual one, and its lines go there.  That is the file of the
  documented order, in which the argument goes first, exactly if the
  argument and the variable do not name different files.
-/
theorem log_file_of_run
    {env : Environment}
    {args : List String}
    {i : Invocation}
    {s s₁ : σ}
    {loaded : Config}
    (hParse : CommandLine.parse args = .ok i)
    (hLoad : Returns (Config.load env i.configFile) s loaded s₁)
    (hEnabled : loaded.log.enabled = true)
    (hOutput : Log.output env (i.apply loaded).log = .ok .file) :
    ∃ file, file = Log.chosen env
        [Log.fileVariable? env, i.logFile, loaded.log.file] ∧
      (run env args : StateM σ Nat).run s =
        (withLog i (i.apply loaded)
          (Log.setUpFile env (i.apply loaded).log file) :
            StateM σ Nat).run s₁ ∧
      (∀ l s₂, Returns (Log.setUpFile env (i.apply loaded).log file)
          s₁ l s₂ →
        ∃ path, file = .ok path ∧ l.sink = .file path ∧
          ∃ s', (Workspace.append path "" : StateM σ _).run s' =
            (.ok (), s₂)) ∧
      (file = Log.chosen env
          [i.logFile, Log.fileVariable? env, loaded.log.file] ↔
        ∀ a b, Log.nonempty (Log.fileVariable? env) = some a →
          Log.nonempty i.logFile = some b → a = b) := by
  have hFlag := (CommandLine.pathsNamed_of_parse hParse).logFile
  have hMerged : Log.chosen env
      [Log.fileVariable? env, (i.apply loaded).log.file] =
        Log.chosen env [Log.fileVariable? env, i.logFile, loaded.log.file] :=
    Log.chosen_or env hFlag _
  have hOn : (i.apply loaded).log.enabled = true := hEnabled
  have hConfigure : Returns (configure env i) s (i.apply loaded) s₁ :=
    returns_bind_iff.mpr ⟨loaded, s₁, hLoad, returns_pure_iff.mpr ⟨rfl, rfl⟩⟩
  refine ⟨_, rfl, ?_, ?_, ?_⟩
  · rw [run_eq hParse hConfigure, Log.setUp_eq hOn hOutput, hMerged]
  · intro l s₂ hSetUp
    exact Log.returns_setUpFile hSetUp
  · exact Log.chosen_swap_iff env _ _ _

/- Arguments that name the file of a log that goes to a file. -/
def fileArguments : List String := [
  "-o", "o.s", "o.h", "-S", ".", "-c", "R", "--report", "none",
  "--log-output", "file", "--log-file", "cli.log"]

/- What they ask for. -/
def fileInvocation : Invocation :=
  { outputs := ["o.s", "o.h"], search := ["."], resourceClass := some "R",
    report := .none, logOutput := some "file", logFile := some "cli.log" }

/- A store without files, and nothing printed. -/
def blankTranscript : Transcript :=
  ⟨Store.initial ["w"], "", "", "T"⟩

/- The argument goes before the configuration. -/
theorem log_file_of_run_sample :
    ∃ loaded s₁, CommandLine.parse fileArguments = .ok fileInvocation ∧
      Returns (Config.load [("GENRSRC__LOGGING__FILE", "conf.log")]
        fileInvocation.configFile) blankTranscript loaded s₁ ∧
      loaded.log.file = some "conf.log" ∧
      (run [("GENRSRC__LOGGING__FILE", "conf.log")] fileArguments :
          StateM Transcript Nat).run blankTranscript =
        (withLog fileInvocation (fileInvocation.apply loaded)
          (Log.setUpFile [("GENRSRC__LOGGING__FILE", "conf.log")]
            (fileInvocation.apply loaded).log (.ok "cli.log")) :
              StateM Transcript Nat).run s₁ := by
  have hParse : CommandLine.parse fileArguments = .ok fileInvocation := by
    rfl
  have hLoad : ∃ loaded s₁,
      Returns (Config.load [("GENRSRC__LOGGING__FILE", "conf.log")]
        fileInvocation.configFile) blankTranscript loaded s₁ ∧
      loaded.log.enabled = true ∧ loaded.log.file = some "conf.log" := by
    apply exists_returns_and
    decide +kernel
  rcases hLoad with ⟨loaded, s₁, hLoad, hEnabled, hConfigured⟩
  rcases log_file_of_run hParse hLoad hEnabled rfl with
    ⟨file, hFile, hRun, -, -⟩
  have hName : file = .ok "cli.log" := by
    rw [hFile, hConfigured]
    rfl
  exact ⟨loaded, s₁, hParse, hLoad, hConfigured, hName ▸ hRun⟩

/- A variable does, too, and the file of the argument is not opened. -/
theorem variable_before_argument :
    CommandLine.parse fileArguments = .ok fileInvocation ∧
    Log.chosen [("GENRSRC_LOG_FILE", "env.log")]
      [fileInvocation.logFile, some "env.log", none] = .ok "cli.log" ∧
    ((run [("GENRSRC_LOG_FILE", "env.log")] fileArguments :
        StateM Transcript Nat).run blankTranscript).1 = 0 ∧
    ((run [("GENRSRC_LOG_FILE", "env.log")] fileArguments :
        StateM Transcript Nat).run blankTranscript).2.store.isFile
          "env.log" = true ∧
    ((run [("GENRSRC_LOG_FILE", "env.log")] fileArguments :
        StateM Transcript Nat).run blankTranscript).2.store.isFile
          "cli.log" = false := by
  refine ⟨rfl, rfl, ?_⟩
  decide +kernel

end Program

end ResourcePack
