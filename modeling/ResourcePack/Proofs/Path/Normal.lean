import Mathlib.Data.List.Induction
import Mathlib.Logic.Relation
import ResourcePack.Proofs.Path.Components
import ResourcePack.Proofs.Text.Pieces

/-
  The directories of a path are a normal form of it.

  Key definitions include:
    * `ResourcePack.Path.IsOrdinary`
    * `ResourcePack.Path.AtSegment`
    * `ResourcePack.Path.Idle`
    * `ResourcePack.Path.Drops`
    * `ResourcePack.Path.Normalizes`

  Main declarations:
    * `ResourcePack.Path.steps_append`
    * `ResourcePack.Path.normal_idle`
    * `ResourcePack.Path.normalizes_iff`
    * `ResourcePack.Path.directories_normal_form`

  Following the steps of a path is the same as striking out what
  says nothing in its text, as long as there is something to strike
  out: empty segments, `.`, a name together with the `..` behind it,
  and a `..` at the top.  What is written into a path without
  leading anywhere does not change where it leads.
-/

------------------------------------------------------------
-- Steps of Joined Paths
------------------------------------------------------------

namespace ResourcePack

namespace Path

/- A text that is a segment of paths and goes down. -/
structure IsOrdinary
    (name : String) : Prop where
  ne_empty : name ≠ ""
  ne_here : name ≠ "."
  ne_up : name ≠ ".."
  no_slash : '/' ∉ name.toList

instance
    (name : String) :
    Decidable (IsOrdinary name) :=
  decidable_of_iff
    (name ≠ "" ∧ name ≠ "." ∧ name ≠ ".." ∧ '/' ∉ name.toList)
    ⟨fun h => ⟨h.1, h.2.1, h.2.2.1, h.2.2.2⟩,
      fun h => ⟨h.ne_empty, h.ne_here, h.ne_up, h.no_slash⟩⟩

theorem step?_of_isOrdinary
    {name : String}
    (hName : IsOrdinary name) :
    step? name = some (.down name) := by
  simp [step?, hName.ne_empty, hName.ne_here, hName.ne_up]

/- A segment that is a step down is that name, and ordinary. -/
theorem isOrdinary_of_step?
    {segment name : String}
    (hSlash : '/' ∉ segment.toList)
    (hStep : step? segment = some (.down name)) :
    segment = name ∧ IsOrdinary name := by
  unfold step? at hStep
  split at hStep
  · cases hStep
  · next hSomething =>
    split at hStep
    · cases hStep
    · next hUp =>
      cases hStep
      simp only [Bool.or_eq_true, decide_eq_true_eq, not_or] at hSomething
      exact ⟨rfl, hSomething.1, hSomething.2, hUp, hSlash⟩

/- The steps on both sides of a slash. -/
theorem steps_append_slash
    (before after : String) :
    steps (before ++ "/" ++ after) = steps before ++ steps after := by
  have hSplit : Text.splitOn '/' (before ++ "/" ++ after) =
      Text.splitOn '/' before ++ Text.splitOn '/' after :=
    Text.splitOn_append rfl before after
  unfold steps
  rw [hSplit, List.filterMap_append]

theorem steps_empty :
    steps "" = [] :=
  rfl

/- A text after which a segment begins. -/
def AtSegment
    (before : String) : Prop :=
  before = "" ∨ ∃ text, before = text ++ "/"

/- Where a segment begins, what follows makes its own steps. -/
theorem steps_append
    {before : String}
    (hStart : AtSegment before)
    (after : String) :
    steps (before ++ after) = steps before ++ steps after := by
  rcases hStart with rfl | ⟨text, rfl⟩
  · rw [String.empty_append, steps_empty, List.nil_append]
  · have hText : steps (text ++ "/") = steps text := by
      have hEnd := steps_append_slash text ""
      rwa [String.append_empty, steps_empty, List.append_nil] at hEnd
    rw [steps_append_slash, hText]

theorem steps_of_isOrdinary
    {name : String}
    (hName : IsOrdinary name) :
    steps name = [.down name] := by
  unfold steps
  rw [Text.splitOn_of_not_mem hName.no_slash, List.filterMap_cons,
    step?_of_isOrdinary hName, List.filterMap_nil]

/- Ordinary names that are joined are steps down. -/
theorem steps_intercalate
    {names : List String}
    (hNames : ∀ name ∈ names, IsOrdinary name) :
    steps ("/".intercalate names) = names.map .down := by
  induction names with
  | nil => rfl
  | cons name rest ih =>
    rw [List.forall_mem_cons] at hNames
    cases rest with
    | nil =>
      rw [String.intercalate_singleton]
      exact steps_of_isOrdinary hNames.1
    | cons next others =>
      rw [String.intercalate_cons_cons, steps_append_slash,
        steps_of_isOrdinary hNames.1, ih hNames.2]
      rfl

end Path

end ResourcePack

------------------------------------------------------------
-- Where Steps Lead
------------------------------------------------------------

namespace ResourcePack

namespace Path

theorem walk_append
    (position : List String)
    (path path' : List Step) :
    walk position (path ++ path') = walk (walk position path) path' :=
  List.foldl_append

/- Steps down lead to their names. -/
theorem walk_map_down
    (position names : List String) :
    walk position (names.map .down) = position ++ names := by
  induction names generalizing position with
  | nil => exact (List.append_nil position).symm
  | cons name rest ih =>
    rw [List.map_cons, walk, List.foldl_cons, ← walk, ih, follow,
      List.append_assoc, List.singleton_append]

/- All names that a path leads to are ordinary. -/
theorem isOrdinary_of_mem_normal
    {path name : String}
    (hMem : name ∈ normal path) :
    IsOrdinary name := by
  rcases mem_walk hMem with hNone | hStep
  · cases hNone
  · rcases List.mem_filterMap.mp hStep with ⟨segment, hSegment, hDown⟩
    have hSlash := Text.not_mem_of_mem_splitOn hSegment
    exact (isOrdinary_of_step? hSlash hDown).2

theorem isOrdinary_of_mem_directories
    {path name : String}
    (hMem : name ∈ directories path) :
    IsOrdinary name :=
  isOrdinary_of_mem_normal ((List.dropLast_prefix _).subset hMem)

/- A path with a file name leads to it, through its directories. -/
theorem normal_of_fileName?
    {path file : String}
    (hFile : fileName? path = some file) :
    normal path = directories path ++ [file] := by
  unfold fileName? at hFile
  split at hFile
  · next name hLast =>
    cases hFile
    rcases List.getLast?_eq_some_iff.mp hLast with ⟨before, hSteps⟩
    have hNormal : normal path = walk [] before ++ [file] := by
      rw [normal, hSteps, walk_append]
      rfl
    rw [directories, hNormal, List.dropLast_concat]
  · cases hFile

/- Directories with a file name behind them make a path to it. -/
theorem normal_joined
    {names : List String}
    (hNames : ∀ name ∈ names, IsOrdinary name)
    {file : String}
    (hFile : IsOrdinary file) :
    normal ("/".intercalate names ++ "/" ++ file) = names ++ [file] := by
  rw [normal, steps_append_slash, steps_intercalate hNames,
    steps_of_isOrdinary hFile, walk_append, walk_map_down]
  rfl

end Path

end ResourcePack

------------------------------------------------------------
-- What Leads Nowhere
------------------------------------------------------------

namespace ResourcePack

namespace Path

/- What can be written before a segment without leading anywhere. -/
inductive Idle : String → Prop where
  | here : Idle "./"
  | slash : Idle "/"
  | detour {name : String} (hName : IsOrdinary name) :
    Idle (name ++ "/../")

/- A segment begins behind it. -/
theorem Idle.atSegment
    {idle : String}
    (hIdle : Idle idle) :
    AtSegment idle := by
  cases hIdle with
  | here => exact Or.inr ⟨".", rfl⟩
  | slash => exact Or.inr ⟨"", rfl⟩
  | @detour name hName =>
    exact Or.inr ⟨name ++ "/..", by rw [String.append_assoc]; rfl⟩

/- Its steps lead back to where they began. -/
theorem Idle.walk_steps
    {idle : String}
    (hIdle : Idle idle)
    (position : List String) :
    walk position (steps idle) = position := by
  cases hIdle with
  | here => rfl
  | slash => rfl
  | @detour name hName =>
    have hDetour : name ++ "/../" = name ++ "/" ++ "../" := by
      rw [String.append_assoc]
      rfl
    have hUp : steps "../" = [.up] := rfl
    rw [hDetour, steps_append_slash, steps_of_isOrdinary hName, hUp]
    exact List.dropLast_concat

/- A path leads to the same names with something idle in it. -/
theorem normal_idle
    {before idle : String}
    (hStart : AtSegment before)
    (hIdle : Idle idle)
    (after : String) :
    normal (before ++ idle ++ after) = normal (before ++ after) := by
  have hSteps : steps (before ++ idle ++ after) =
      steps before ++ steps idle ++ steps after := by
    rw [String.append_assoc, steps_append hStart,
      steps_append hIdle.atSegment, List.append_assoc]
  rw [normal, normal, hSteps, steps_append hStart, walk_append,
    walk_append, walk_append, hIdle.walk_steps]

/- At the top, a `..` in a path leads nowhere. -/
theorem normal_surplus
    {before after : String}
    (hStart : AtSegment before)
    (hTop : normal before = [])
    (hEnd : after = "" ∨ ∃ text, after = "/" ++ text) :
    normal (before ++ ".." ++ after) = normal (before ++ after) := by
  have hUp : steps (".." ++ after) = .up :: steps after := by
    rcases hEnd with rfl | ⟨text, rfl⟩
    · rfl
    · have hSlash : steps ("/" ++ text) = steps text :=
        steps_append (Or.inr ⟨"", rfl⟩) text
      rw [← String.append_assoc, steps_append_slash, hSlash]
      rfl
  rw [normal, normal, String.append_assoc, steps_append hStart, hUp,
    steps_append hStart, walk_append, walk_append, ← normal, hTop]
  rfl

end Path

end ResourcePack

------------------------------------------------------------
-- Striking Out Segments
------------------------------------------------------------

namespace ResourcePack

namespace Path

/-
  Segments are struck out of a path: one that says nothing, a name
  with the `..` behind it, or a `..` that nothing is before.
-/
inductive Drops : List String → List String → Prop where
  | blank (before after : List String) :
    Drops (before ++ "" :: after) (before ++ after)
  | here (before after : List String) :
    Drops (before ++ "." :: after) (before ++ after)
  | back (before after : List String) {name : String}
      (hName : IsOrdinary name) :
    Drops (before ++ name :: ".." :: after) (before ++ after)
  | top (after : List String) :
    Drops (".." :: after) after

/-
  Names are what is left of the segments of a path when everything is
  struck out that can be.
-/
def Normalizes
    (path : String)
    (names : List String) : Prop :=
  Relation.ReflTransGen Drops (Text.splitOn '/' path) names ∧
    ∀ fewer, ¬Drops names fewer

/- The names that segments lead to. -/
def reached
    (segments : List String) : List String :=
  walk [] (segments.filterMap step?)

/- The segments of a path lead to its normal form. -/
theorem reached_splitOn
    (path : String) :
    reached (Text.splitOn '/' path) = normal path :=
  rfl

theorem reached_append
    (segments rest : List String) :
    reached (segments ++ rest) =
      walk (reached segments) (rest.filterMap step?) := by
  unfold reached
  rw [List.filterMap_append, walk_append]

/- Ordinary names lead to themselves. -/
theorem reached_of_isOrdinary
    {names : List String}
    (hNames : ∀ name ∈ names, IsOrdinary name) :
    reached names = names := by
  have hSteps : names.filterMap step? = names.map .down := by
    rw [← List.filterMap_eq_map]
    apply List.filterMap_congr
    intro name hMem
    exact step?_of_isOrdinary (hNames name hMem)
  rw [reached, hSteps, walk_map_down, List.nil_append]

/- Striking out does not change where segments lead. -/
theorem Drops.reached_eq
    {segments fewer : List String}
    (hDrops : Drops segments fewer) :
    reached segments = reached fewer := by
  cases hDrops with
  | blank before after | here before after =>
    rw [reached_append, reached_append]
    rfl
  | @back before after name hName =>
    have hSteps : (name :: ".." :: after).filterMap step? =
        [.down name, .up] ++ after.filterMap step? := by
      rw [List.filterMap_cons, step?_of_isOrdinary hName]
      rfl
    have hBack : walk (reached before) [.down name, .up] =
        reached before :=
      List.dropLast_concat
    rw [reached_append, reached_append, hSteps, walk_append, hBack]
  | top => rfl

theorem Drops.subset
    {segments fewer : List String}
    (hDrops : Drops segments fewer) :
    fewer ⊆ segments := by
  cases hDrops with
  | blank before after | here before after => simp
  | back before after hName =>
    exact List.append_subset.mpr ⟨by simp, fun _ hMem => by simp [hMem]⟩
  | top => simp

/- What can be struck out can be with more behind it. -/
theorem Drops.append_right
    {segments fewer : List String}
    (hDrops : Drops segments fewer)
    (rest : List String) :
    Drops (segments ++ rest) (fewer ++ rest) := by
  cases hDrops with
  | blank before after =>
    simpa using Drops.blank before (after ++ rest)
  | here before after =>
    simpa using Drops.here before (after ++ rest)
  | back before after hName =>
    simpa using Drops.back before (after ++ rest) hName
  | top => exact Drops.top (fewer ++ rest)

/- From names with a segment behind them one thing is struck out at most. -/
theorem drops_segment
    {names : List String}
    (hNames : ∀ name ∈ names, IsOrdinary name)
    {segment : String}
    (hSlash : '/' ∉ segment.toList) :
    Relation.ReflTransGen Drops (names ++ [segment])
        (reached (names ++ [segment])) ∧
      ∀ name ∈ reached (names ++ [segment]), IsOrdinary name := by
  rw [reached_append, reached_of_isOrdinary hNames]
  by_cases hEmpty : segment = ""
  · subst hEmpty
    have hDrops := Drops.blank names []
    rw [List.append_nil] at hDrops
    exact ⟨.single hDrops, hNames⟩
  by_cases hHere : segment = "."
  · subst hHere
    have hDrops := Drops.here names []
    rw [List.append_nil] at hDrops
    exact ⟨.single hDrops, hNames⟩
  by_cases hUp : segment = ".."
  · subst hUp
    rcases List.eq_nil_or_concat' names with rfl | ⟨before, name, rfl⟩
    · exact ⟨.single (Drops.top []), hNames⟩
    · rw [List.forall_mem_append] at hNames
      have hDrops := Drops.back before []
        (hNames.2 name List.mem_cons_self)
      have hLeft : walk (before ++ [name]) ([".."].filterMap step?) =
          before :=
        List.dropLast_concat
      rw [List.append_nil] at hDrops
      rw [hLeft, List.append_assoc]
      exact ⟨.single hDrops, hNames.1⟩
  · have hName : IsOrdinary segment := ⟨hEmpty, hHere, hUp, hSlash⟩
    have hDown : walk names ([segment].filterMap step?) =
        names ++ [segment] := by
      rw [List.filterMap_cons, step?_of_isOrdinary hName]
      rfl
    rw [hDown, List.forall_mem_append, List.forall_mem_singleton]
    exact ⟨.refl, hNames, hName⟩

/- Everything is struck out until the names are left that are reached. -/
theorem drops_reached
    {segments : List String}
    (hSlash : ∀ segment ∈ segments, '/' ∉ segment.toList) :
    Relation.ReflTransGen Drops segments (reached segments) ∧
      ∀ name ∈ reached segments, IsOrdinary name := by
  induction segments using List.reverseRecOn with
  | nil => exact ⟨.refl, fun name hMem => absurd hMem List.not_mem_nil⟩
  | append_singleton segments segment ih =>
    rw [List.forall_mem_append, List.forall_mem_singleton] at hSlash
    rcases ih hSlash.1 with ⟨hDrops, hNames⟩
    have hAgain : reached (reached segments ++ [segment]) =
        reached (segments ++ [segment]) := by
      rw [reached_append, reached_append, reached_of_isOrdinary hNames]
    rcases drops_segment hNames hSlash.2 with ⟨hLast, hReached⟩
    rw [hAgain] at hLast hReached
    have hBefore : Relation.ReflTransGen Drops (segments ++ [segment])
        (reached segments ++ [segment]) :=
      hDrops.lift (· ++ [segment]) fun _ _ hStep =>
        hStep.append_right [segment]
    exact ⟨hBefore.trans hLast, hReached⟩

/- From ordinary names nothing can be struck out. -/
theorem not_drops_of_isOrdinary
    {names : List String}
    (hNames : ∀ name ∈ names, IsOrdinary name)
    (fewer : List String) :
    ¬Drops names fewer := by
  intro hDrops
  cases hDrops with
  | blank before after => exact (hNames "" (by simp)).ne_empty rfl
  | here before after => exact (hNames "." (by simp)).ne_here rfl
  | back before after hName => exact (hNames ".." (by simp)).ne_up rfl
  | top => exact (hNames ".." (by simp)).ne_up rfl

/- However much is struck out, the same names are reached. -/
theorem reached_eq_of_drops
    {segments fewer : List String}
    (hDrops : Relation.ReflTransGen Drops segments fewer) :
    reached segments = reached fewer ∧ fewer ⊆ segments := by
  induction hDrops with
  | refl => exact ⟨rfl, List.Subset.refl segments⟩
  | tail hBefore hStep ih =>
    exact ⟨ih.1.trans hStep.reached_eq,
      List.Subset.trans hStep.subset ih.2⟩

/-
  What is left of a path, when everything is struck out that can be,
  is its normal form, and nothing else can be left.
-/
theorem normalizes_iff
    {path : String}
    {names : List String} :
    Normalizes path names ↔ names = normal path := by
  have hSlash : ∀ segment ∈ Text.splitOn '/' path, '/' ∉ segment.toList :=
    fun _ hMem => Text.not_mem_of_mem_splitOn hMem
  rcases drops_reached hSlash with ⟨hDrops, hOrdinary⟩
  rw [reached_splitOn] at hDrops hOrdinary
  constructor
  · rintro ⟨hNames, hDone⟩
    rcases reached_eq_of_drops hNames with ⟨hReached, hSubset⟩
    have hRest := (drops_reached fun segment hMem =>
      hSlash segment (hSubset hMem)).1
    -- as nothing more can be struck out, these are the names reached
    rcases hRest.cases_head with hSame | ⟨fewer, hFirst, -⟩
    · rw [hSame, ← hReached, reached_splitOn]
    · exact absurd hFirst (hDone fewer)
  · rintro rfl
    exact ⟨hDrops, not_drops_of_isOrdinary hOrdinary⟩

end Path

end ResourcePack

------------------------------------------------------------
-- Directories
------------------------------------------------------------

namespace ResourcePack

namespace Path

/-
  The directories of a path are ordinary names; with any file name
  behind them they are the directories of what they make.  Something
  idle before a segment, and a `..` at the top, do not change them.
  Where the path has a file name, they and that name are what is left
  of the path when everything is struck out that can be.
-/
theorem directories_normal_form
    (path : String) :
    (∀ name ∈ directories path, IsOrdinary name) ∧
      (∀ file, IsOrdinary file →
        directories ("/".intercalate (directories path) ++ "/" ++ file) =
          directories path) ∧
      (∀ before after, path = before ++ after → AtSegment before →
        ∀ idle, Idle idle →
          directories (before ++ idle ++ after) = directories path) ∧
      (∀ before after, path = before ++ ".." ++ after →
        AtSegment before → (after = "" ∨ ∃ text, after = "/" ++ text) →
        normal before = [] →
          directories (before ++ after) = directories path) ∧
      ∀ file, fileName? path = some file →
        ∀ names, Normalizes path names ↔
          names = directories path ++ [file] := by
  have hNames : ∀ name ∈ directories path, IsOrdinary name :=
    fun name hMem => isOrdinary_of_mem_directories hMem
  refine ⟨hNames, ?_, ?_, ?_, ?_⟩
  · intro file hFile
    have hNormal := normal_joined hNames hFile
    exact (congrArg List.dropLast hNormal).trans List.dropLast_concat
  · rintro before after rfl hStart idle hIdle
    exact congrArg List.dropLast (normal_idle hStart hIdle after)
  · rintro before after rfl hStart hEnd hTop
    exact congrArg List.dropLast (normal_surplus hStart hTop hEnd).symm
  · intro file hFile names
    rw [normalizes_iff, normal_of_fileName? hFile]

/- A path that begins above the top, with a detour and two slashes. -/
def windingPath : String :=
  "/../data/./x/../icons//a.png"

/-
  Its directories are two names, which come back when they are
  joined.  They are the same with another detour before the last
  segment, and without the first `..`.  These and the file name are
  all that is left of it.
-/
theorem directories_normal_form_winding :
    directories windingPath = ["data", "icons"] ∧
      directories ("/".intercalate ["data", "icons"] ++ "/" ++ "b.png") =
        ["data", "icons"] ∧
      directories ("/../data/./x/../icons//" ++ "y/../" ++ "a.png") =
        ["data", "icons"] ∧
      directories ("/" ++ "/data/./x/../icons//a.png") =
        ["data", "icons"] ∧
      fileName? windingPath = some "a.png" ∧
      Normalizes windingPath ["data", "icons", "a.png"] := by
  have hDirectories : directories windingPath = ["data", "icons"] := by
    decide +kernel
  have hFile : fileName? windingPath = some "a.png" := by
    decide +kernel
  have hLast : windingPath = "/../data/./x/../icons//" ++ "a.png" := by
    decide +kernel
  have hFirst : windingPath =
      "/" ++ ".." ++ "/data/./x/../icons//a.png" := by
    decide +kernel
  have hDetour : Idle "y/../" := @Idle.detour "y" (by decide +kernel)
  rcases directories_normal_form windingPath with
    ⟨-, hAgain, hIdle, hSurplus, hWhole⟩
  rw [hDirectories] at hAgain hWhole
  have hJoined := hAgain "b.png" (by decide +kernel)
  have hStart : AtSegment "/../data/./x/../icons//" :=
    .inr ⟨"/../data/./x/../icons/", by decide +kernel⟩
  have hEnd : "/data/./x/../icons//a.png" =
      "/" ++ "data/./x/../icons//a.png" := by
    decide +kernel
  have hSame := hIdle _ _ hLast hStart _ hDetour
  have hDropped := hSurplus _ _ hFirst (.inr ⟨"", rfl⟩) (.inr ⟨_, hEnd⟩)
    (by decide +kernel)
  exact ⟨hDirectories, hJoined, hSame.trans hDirectories,
    hDropped.trans hDirectories, hFile, (hWhole _ hFile _).mpr rfl⟩

end Path

end ResourcePack
