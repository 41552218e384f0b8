import ResourcePack.CommandLine.Parse

/-
  What holds of every invocation that is read from a command line.

  Key definitions include:
    * `ResourcePack.CommandLine.Kept`
    * `ResourcePack.Invocation.PathsNamed`

  Main declarations:
    * `ResourcePack.CommandLine.Kept.of_parse`
    * `ResourcePack.CommandLine.pathsNamed_of_parse`

  The words are read one after the other, and each of them changes
  the invocation in one of three ways only: a value is stored, a flag
  is raised, or a resource is added.  What these keep is kept by all
  readers.
-/

------------------------------------------------------------
-- What Readers Keep
------------------------------------------------------------

namespace ResourcePack

namespace CommandLine

/- A property of invocations that is kept whatever is read. -/
structure Kept
    (p : Invocation → Prop) : Prop where
  start : p {}
  store : ∀ i s value i', store i s value = .ok i' → p i → p i'
  raise : ∀ i f, p i → p (raise i f)
  resource : ∀ (i : Invocation) word, p i →
    p { i with resources := i.resources ++ [word] }

namespace Kept

variable {p : Invocation → Prop} {r r' : Reader}

/- To store several values is to store one after the other. -/
theorem of_storeAll
    (hKept : Kept p)
    {i i' : Invocation}
    {s : Setting}
    {values : List String}
    (hStore : storeAll i s values = .ok i')
    (hP : p i) :
    p i' := by
  induction values generalizing i with
  | nil =>
    cases hStore
    exact hP
  | cons value rest ih =>
    unfold storeAll at hStore
    split at hStore
    · next i₁ hFirst =>
      exact ih hStore (hKept.store i s value i₁ hFirst hP)
    · cases hStore

/- The values of an option are stored. -/
theorem of_accept
    (hKept : Kept p)
    {s : Setting}
    {values : List String}
    (hAccept : r.accept s values = .ok r')
    (hP : p r.invocation) :
    p r'.invocation := by
  unfold Reader.accept at hAccept
  split at hAccept
  · cases hAccept
  · split at hAccept
    · cases hAccept
    · split at hAccept
      · cases hAccept
      · split at hAccept
        · next i hStore =>
          cases hAccept
          exact hKept.of_storeAll hStore hP
        · cases hAccept

/- So are those of the option that is pending. -/
theorem of_settle
    (hKept : Kept p)
    (hSettle : r.settle = .ok r')
    (hP : p r.invocation) :
    p r'.invocation := by
  unfold Reader.settle at hSettle
  split at hSettle
  · next s values hPending =>
    exact hKept.of_accept (r := { r with pending := none }) hSettle hP
  · cases hSettle
    exact hP

/- A resource is added behind the option that is pending. -/
theorem of_addResource
    (hKept : Kept p)
    {word : String}
    (hAdd : r.addResource word = .ok r')
    (hP : p r.invocation) :
    p r'.invocation := by
  unfold Reader.addResource at hAdd
  split at hAdd
  · next r₁ hSettle =>
    cases hAdd
    exact hKept.resource _ word (hKept.of_settle hSettle hP)
  · cases hAdd

theorem of_addFlag
    (hKept : Kept p)
    {f : Flag}
    (hAdd : r.addFlag f = .ok r')
    (hP : p r.invocation) :
    p r'.invocation := by
  unfold Reader.addFlag at hAdd
  split at hAdd
  · next r₁ hSettle =>
    split at hAdd
    · cases hAdd
    · cases hAdd
      exact hKept.raise _ f (hKept.of_settle hSettle hP)
  · cases hAdd

theorem of_addSetting
    (hKept : Kept p)
    {s : Setting}
    {attached : Option (List Char)}
    (hAdd : r.addSetting s attached = .ok r')
    (hP : p r.invocation) :
    p r'.invocation := by
  unfold Reader.addSetting at hAdd
  split at hAdd
  · next r₁ hSettle =>
    have hSettled := hKept.of_settle hSettle hP
    cases attached with
    | some value => exact hKept.of_accept hAdd hSettled
    | none =>
      cases hAdd
      exact hSettled
  · cases hAdd

/- Nothing is read behind a call for help. -/
theorem addHelp_ne_ok
    (r r' : Reader) :
    r.addHelp ≠ .ok r' := by
  unfold Reader.addHelp
  split <;> nofun

theorem of_readShort
    (hKept : Kept p)
    {cs : List Char}
    (hRead : r.readShort cs = .ok r')
    (hP : p r.invocation) :
    p r'.invocation := by
  induction cs generalizing r with
  | nil =>
    cases hRead
    exact hP
  | cons c rest ih =>
    unfold Reader.readShort at hRead
    split at hRead
    · exact hKept.of_addSetting hRead hP
    · split at hRead
      · next r₁ hFlag => exact ih hRead (hKept.of_addFlag hFlag hP)
      · cases hRead
    · exact absurd hRead (addHelp_ne_ok r r')
    · cases hRead

theorem of_readLong
    (hKept : Kept p)
    {text : List Char}
    (hRead : r.readLong text = .ok r')
    (hP : p r.invocation) :
    p r'.invocation := by
  unfold Reader.readLong at hRead
  simp only at hRead
  split at hRead
  · exact hKept.of_addSetting hRead hP
  · cases hRead
  · exact hKept.of_addFlag hRead hP
  · exact absurd hRead (addHelp_ne_ok r r')
  · cases hRead

theorem of_readPlain
    (hKept : Kept p)
    {word : String}
    (hRead : r.readPlain word = .ok r')
    (hP : p r.invocation) :
    p r'.invocation := by
  unfold Reader.readPlain at hRead
  split at hRead
  · cases hRead
    exact hP
  · exact hKept.of_addResource hRead hP

theorem of_read
    (hKept : Kept p)
    {word : String}
    (hRead : r.read word = .ok r')
    (hP : p r.invocation) :
    p r'.invocation := by
  unfold Reader.read at hRead
  split at hRead
  · exact hKept.of_addResource hRead hP
  · split at hRead
    · exact hKept.of_readPlain hRead hP
    · split at hRead
      · cases hRead
        exact hP
      · exact hKept.of_readLong hRead hP
      · exact hKept.of_readPlain hRead hP
      · exact hKept.of_readShort hRead hP
      · exact hKept.of_readPlain hRead hP

theorem of_readAll
    (hKept : Kept p)
    {words : List String}
    (hRead : r.readAll words = .ok r')
    (hP : p r.invocation) :
    p r'.invocation := by
  induction words generalizing r with
  | nil =>
    cases hRead
    exact hP
  | cons word rest ih =>
    unfold Reader.readAll at hRead
    split at hRead
    · next r₁ hFirst => exact ih hRead (hKept.of_read hFirst hP)
    · cases hRead

/- What every reader keeps holds of what a command line asks for. -/
theorem of_parse
    (hKept : Kept p)
    {words : List String}
    {i : Invocation}
    (hParse : parse words = .ok i) :
    p i := by
  unfold parse at hParse
  split at hParse
  · next r hRead =>
    have hRest := hKept.of_readAll hRead hKept.start
    split at hParse
    · next r₁ hSettle =>
      split at hParse
      · cases hParse
        exact hKept.of_settle hSettle hRest
      · cases hParse
    · cases hParse
  · cases hParse

end Kept

end CommandLine

end ResourcePack

------------------------------------------------------------
-- Paths
------------------------------------------------------------

namespace ResourcePack

/- All paths that were given have some text. -/
structure Invocation.PathsNamed
    (i : Invocation) : Prop where
  outputs : "" ∉ i.outputs
  search : "" ∉ i.search
  configFile : i.configFile ≠ some ""
  logFile : i.logFile ≠ some ""

namespace CommandLine

theorem path_eq_ok_iff
    {value v : String} :
    path value = .ok v ↔ v = value ∧ value ≠ "" := by
  unfold path
  by_cases hEmpty : value = ""
  · simp [hEmpty]
  · simp [hEmpty, eq_comm]

/- A path that is stored is the one that was given. -/
theorem exists_of_map_path
    {value : String}
    {f : String → Invocation}
    {i' : Invocation}
    (hStore : (path value).map f = .ok i') :
    value ≠ "" ∧ i' = f value := by
  cases hPath : path value with
  | error e =>
    rw [hPath] at hStore
    cases hStore
  | ok v =>
    rcases path_eq_ok_iff.mp hPath with ⟨rfl, hNe⟩
    rw [hPath] at hStore
    cases hStore
    exact ⟨hNe, rfl⟩

/- Whatever is read, no path without a text is stored. -/
theorem kept_pathsNamed :
    Kept Invocation.PathsNamed where
  start := ⟨List.not_mem_nil, List.not_mem_nil, nofun, nofun⟩
  store i s value i' hStore hNamed := by
    rcases hNamed with ⟨hOutputs, hSearch, hConfigFile, hLogFile⟩
    cases s with
    | output =>
      rcases exists_of_map_path hStore with ⟨hNe, rfl⟩
      refine ⟨?_, hSearch, hConfigFile, hLogFile⟩
      exact List.not_mem_append hOutputs
        fun h => hNe (List.mem_singleton.mp h).symm
    | search =>
      rcases exists_of_map_path hStore with ⟨hNe, rfl⟩
      refine ⟨hOutputs, ?_, hConfigFile, hLogFile⟩
      exact List.not_mem_append hSearch
        fun h => hNe (List.mem_singleton.mp h).symm
    | configFile =>
      rcases exists_of_map_path hStore with ⟨hNe, rfl⟩
      exact ⟨hOutputs, hSearch, fun h => hNe (Option.some.inj h), hLogFile⟩
    | logFile =>
      rcases exists_of_map_path hStore with ⟨hNe, rfl⟩
      exact ⟨hOutputs, hSearch, hConfigFile, fun h => hNe (Option.some.inj h)⟩
    | align =>
      cases hAlign : alignment value <;> rw [store, hAlign] at hStore <;>
        cases hStore
      exact ⟨hOutputs, hSearch, hConfigFile, hLogFile⟩
    | report =>
      cases hReport : reportFormat value <;> rw [store, hReport] at hStore <;>
        cases hStore
      exact ⟨hOutputs, hSearch, hConfigFile, hLogFile⟩
    | symbolPrefix | scope | guard | includes | resourceClass | logLevel
    | logFormat | logOutput =>
      cases hStore
      exact ⟨hOutputs, hSearch, hConfigFile, hLogFile⟩
  raise i f hNamed := by
    cases f <;> exact ⟨hNamed.1, hNamed.2, hNamed.3, hNamed.4⟩
  resource i word hNamed :=
    ⟨hNamed.1, hNamed.2, hNamed.3, hNamed.4⟩

/- Every path of a command line that is carried out has some text. -/
theorem pathsNamed_of_parse
    {words : List String}
    {i : Invocation}
    (hParse : parse words = .ok i) :
    i.PathsNamed :=
  kept_pathsNamed.of_parse hParse

end CommandLine

end ResourcePack
