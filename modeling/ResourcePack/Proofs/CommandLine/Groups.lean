import Mathlib.Data.List.Perm.Basic
import ResourcePack.Proofs.CommandLine.Reading
import ResourcePack.Proofs.Text.Reading

/-
  Command lines that are written from an invocation.

  Key definitions include:
    * `ResourcePack.CommandLine.Group`
    * `ResourcePack.CommandLine.Group.words`
    * `ResourcePack.CommandLine.Group.Fits`
    * `ResourcePack.CommandLine.Reordered`
    * `ResourcePack.Invocation.texts`
    * `ResourcePack.Invocation.groups`

  Main declarations:
    * `ResourcePack.Invocation.eq_of_texts`
    * `ResourcePack.CommandLine.Reordered.under_eq`
    * `ResourcePack.Invocation.fits_of_mem_groups`

  An invocation is a list of texts for each option that takes values,
  and a truth value for each flag.  It is written as groups of words,
  one for each text and one for each flag that is raised; the outputs
  go together.  What matters of the order of the groups is, for each
  option, the groups of that option.
-/

------------------------------------------------------------
-- Groups
------------------------------------------------------------

namespace ResourcePack

namespace CommandLine

/- The long name that an option is written with. -/
def Switch.longName : Switch → String
  | .setting .output => "output"
  | .setting .symbolPrefix => "prefix"
  | .setting .search => "search"
  | .setting .scope => "namespace"
  | .setting .guard => "guard"
  | .setting .includes => "include"
  | .setting .resourceClass => "resource-class"
  | .setting .configFile => "config"
  | .setting .align => "align"
  | .setting .report => "report"
  | .setting .logLevel => "log-level"
  | .setting .logFormat => "log-format"
  | .setting .logOutput => "log-output"
  | .setting .logFile => "log-file"
  | .flag .sorted => "sorted"
  | .flag .escapeSymbols => "escape-symbols"
  | .flag .verbose => "verbose"
  | .help => "help"

theorem long?_longName
    (k : Switch) :
    long? k.longName.toList = some k := by
  cases k with
  | setting s => cases s <;> decide +kernel
  | flag f => cases f <;> decide +kernel
  | help => decide +kernel

theorem equals_notMem_longName
    (k : Switch) :
    '=' ∉ k.longName.toList := by
  cases k with
  | setting s => cases s <;> decide +kernel
  | flag f => cases f <;> decide +kernel
  | help => decide +kernel

/- Whether an option may be given more than once. -/
def Switch.repeatable : Switch → Bool
  | .setting s => s.repeatable
  | .flag _ | .help => false

/-
  One option with all that it takes: a value in the same word, or
  nothing, or the two outputs as words of their own.
-/
inductive Group where
  | value (s : Setting) (text : String)
  | flag (f : Flag)
  | outputs (asm header : String)
  deriving DecidableEq

namespace Group

/- The option of a group. -/
def key : Group → Switch
  | .value s _ => .setting s
  | .flag f => .flag f
  | .outputs _ _ => .setting .output

/- The values of a group. -/
def values : Group → List String
  | .value _ text => [text]
  | .flag _ => []
  | .outputs asm header => [asm, header]

/- The words of a group. -/
def words : Group → List String
  | .value s text => ["--" ++ (Switch.setting s).longName ++ "=" ++ text]
  | .flag f => ["--" ++ (Switch.flag f).longName]
  | .outputs asm header => ["-o", asm, header]

end Group

/- The groups of one option. -/
def under
    (k : Switch)
    (gs : List Group) : List Group :=
  gs.filter fun g => g.key = k

/- The values of one option in all of its groups. -/
def valuesOf
    (s : Setting)
    (gs : List Group) : List String :=
  (under (.setting s) gs).flatMap Group.values

@[simp] theorem under_append
    (k : Switch)
    (gs hs : List Group) :
    under k (gs ++ hs) = under k gs ++ under k hs :=
  List.filter_append gs hs

@[simp] theorem valuesOf_append
    (s : Setting)
    (gs hs : List Group) :
    valuesOf s (gs ++ hs) = valuesOf s gs ++ valuesOf s hs := by
  simp [valuesOf]

theorem under_singleton
    (k : Switch)
    (g : Group) :
    under k [g] = if g.key = k then [g] else [] := by
  by_cases hKey : g.key = k <;> simp [under, hKey]

theorem valuesOf_singleton
    {g : Group}
    {s : Setting}
    (hKey : g.key = .setting s) :
    valuesOf s [g] = g.values := by
  rw [valuesOf, under_singleton, if_pos hKey, List.flatMap_singleton]

theorem valuesOf_singleton_of_ne
    {g : Group}
    {s : Setting}
    (hKey : g.key ≠ .setting s) :
    valuesOf s [g] = [] := by
  rw [valuesOf, under_singleton, if_neg hKey, List.flatMap_nil]

/- A group has at least one value, unless it is a flag. -/
theorem Group.values_ne_nil
    {g : Group}
    {s : Setting}
    (hKey : g.key = .setting s) :
    g.values ≠ [] := by
  cases g with
  | value t text => exact List.cons_ne_nil _ _
  | flag f => cases hKey
  | outputs asm header => exact List.cons_ne_nil _ _

theorem key_notMem
    {k : Switch}
    {gs : List Group}
    (hNone : under k gs = []) :
    k ∉ gs.map Group.key := by
  intro hMem
  rcases List.mem_map.mp hMem with ⟨g, hGroup, hKey⟩
  exact List.filter_eq_nil_iff.mp hNone g hGroup (by simpa using hKey)

/- Options that can be given once are not given again. -/
def AtMostOnce
    (gs : List Group) : Prop :=
  ∀ k : Switch, k.repeatable = false → (under k gs).length ≤ 1

/- A group whose option can be given once is the first of its option. -/
theorem AtMostOnce.under_eq_nil
    {done rest : List Group}
    {g : Group}
    (hOnce : AtMostOnce (done ++ g :: rest))
    (hKey : g.key.repeatable = false) :
    under g.key done = [] := by
  have hLength := hOnce g.key hKey
  rw [under_append, ← List.singleton_append, under_append, under_singleton,
    if_pos rfl] at hLength
  simp only [List.length_append, List.length_singleton] at hLength
  exact List.length_eq_zero_iff.mp (by omega)

end CommandLine

end ResourcePack

------------------------------------------------------------
-- Groups in Another Order
------------------------------------------------------------

namespace ResourcePack

namespace CommandLine

/-
  The same groups in another order, in which the search directories
  follow each other as before, and so do the headers to include.
-/
structure Reordered
    (gs hs : List Group) : Prop where
  perm : gs.Perm hs
  search : under (.setting .search) gs = under (.setting .search) hs
  includes : under (.setting .includes) gs = under (.setting .includes) hs

namespace Reordered

variable {gs hs : List Group}

/- In another order, an option is not given more often. -/
theorem atMostOnce
    (hOrder : Reordered gs hs)
    (hOnce : AtMostOnce hs) :
    AtMostOnce gs := by
  intro k hKey
  have hPerm : (under k gs).Perm (under k hs) := hOrder.perm.filter _
  rw [hPerm.length_eq]
  exact hOnce k hKey

/-
  Each option has its groups in the same order as before: there is one
  at most, or the order is kept.
-/
theorem under_eq
    (hOrder : Reordered gs hs)
    (hOnce : ∀ k : Switch, k ≠ .setting .search → k ≠ .setting .includes →
      (under k hs).length ≤ 1)
    (k : Switch) :
    under k gs = under k hs := by
  by_cases hSearch : k = .setting .search
  · subst hSearch
    exact hOrder.search
  by_cases hIncludes : k = .setting .includes
  · subst hIncludes
    exact hOrder.includes
  have hPerm : (under k gs).Perm (under k hs) := hOrder.perm.filter _
  have hLength := hOnce k hSearch hIncludes
  cases hUnder : under k hs with
  | nil =>
    rw [hUnder] at hPerm
    exact hPerm.eq_nil
  | cons g rest =>
    rw [hUnder, List.length_cons] at hLength
    have hRest : rest = [] := List.length_eq_zero_iff.mp (by omega)
    subst hRest
    rw [hUnder] at hPerm
    exact List.perm_singleton.mp hPerm

end Reordered

end CommandLine

end ResourcePack

------------------------------------------------------------
-- Invocations as Texts
------------------------------------------------------------

namespace ResourcePack

namespace CommandLine

/- The name of a report format. -/
def reportName : ReportFormat → String
  | .text => "text"
  | .json => "json"
  | .none => "none"

/- A report format is read back from its name. -/
theorem reportFormat_reportName
    (f : ReportFormat) :
    reportFormat (reportName f) = .ok f := by
  cases f <;> rfl

/- An alignment is read back from its digits. -/
theorem alignment_toString
    {n : Nat}
    (hSize : n < 4294967296) :
    alignment (toString n) = .ok n := by
  rw [alignment, Decimal.integer?_toString]
  exact if_pos (Decimal.isWord32_ofNat hSize)

end CommandLine

namespace Invocation

open CommandLine

/- The texts that are given for an option. -/
def texts
    (i : Invocation) : Setting → List String
  | .output => i.outputs
  | .symbolPrefix => i.symbolPrefix.toList
  | .search => i.search
  | .scope => i.scope.toList
  | .guard => i.guard.toList
  | .includes => i.includes
  | .resourceClass => i.resourceClass.toList
  | .configFile => i.configFile.toList
  | .align => i.align.toList.map toString
  | .report => [reportName i.report]
  | .logLevel => i.logLevel.toList
  | .logFormat => i.logFormat.toList
  | .logOutput => i.logOutput.toList
  | .logFile => i.logFile.toList

/- Whether a flag is given. -/
def raised
    (i : Invocation) : Flag → Bool
  | .sorted => i.sorted
  | .escapeSymbols => i.escapeSymbols
  | .verbose => i.verbose

theorem eq_of_toList
    {α : Type}
    {a b : Option α}
    (hList : a.toList = b.toList) :
    a = b := by
  rw [← Option.head?_toList (o := a), hList, Option.head?_toList]

theorem toString_injective :
    Function.Injective (toString : Nat → String) := by
  intro m n hText
  have hDigits := Decimal.digits?_toString m
  rw [hText, Decimal.digits?_toString n] at hDigits
  exact (Option.some.inj hDigits).symm

theorem reportName_injective :
    Function.Injective reportName := by
  intro f g hName
  have hRead := reportFormat_reportName f
  rw [hName, reportFormat_reportName g] at hRead
  exact (Except.ok.inj hRead).symm

/- The texts, the flags and the resources are all of an invocation. -/
theorem eq_of_texts
    {i j : Invocation}
    (hTexts : ∀ s, i.texts s = j.texts s)
    (hRaised : ∀ f, i.raised f = j.raised f)
    (hResources : i.resources = j.resources) :
    i = j := by
  have hAlign : i.align = j.align :=
    eq_of_toList (toString_injective.list_map (hTexts .align))
  have hReport : i.report = j.report :=
    reportName_injective (List.singleton_inj.mp (hTexts .report))
  cases i
  cases j
  rw [Invocation.mk.injEq]
  exact ⟨hResources, hTexts .output, eq_of_toList (hTexts .symbolPrefix),
    hTexts .search, eq_of_toList (hTexts .scope),
    eq_of_toList (hTexts .guard), hTexts .includes,
    eq_of_toList (hTexts .resourceClass), eq_of_toList (hTexts .configFile),
    hRaised .sorted, hRaised .escapeSymbols, hAlign, hReport,
    hRaised .verbose, eq_of_toList (hTexts .logLevel),
    eq_of_toList (hTexts .logFormat), eq_of_toList (hTexts .logOutput),
    eq_of_toList (hTexts .logFile)⟩

end Invocation

end ResourcePack

------------------------------------------------------------
-- Writing an Invocation
------------------------------------------------------------

namespace ResourcePack

namespace CommandLine

/- Options that take one value at a time. -/
def singles : List Setting := [
  .symbolPrefix, .search, .scope, .guard, .includes, .resourceClass,
  .configFile, .align, .report, .logLevel, .logFormat, .logOutput, .logFile]

/- They are all but the outputs. -/
theorem arity_eq_one
    {s : Setting}
    (hOutput : s ≠ .output) :
    s.arity = 1 := by
  cases s <;> first | rfl | exact absurd rfl hOutput

/- All flags. -/
def flags : List Flag := [.sorted, .escapeSymbols, .verbose]

theorem under_eq_nil
    {k : Switch}
    {gs : List Group}
    (hOther : ∀ g ∈ gs, g.key ≠ k) :
    under k gs = [] := by
  refine List.filter_eq_nil_iff.mpr fun g hMem => ?_
  rw [decide_eq_true_eq]
  exact hOther g hMem

/- An option of one value has its own groups among those of all. -/
theorem under_flatMap_value
    (l : List Setting)
    (f : Setting → List String)
    (s : Setting) :
    under (.setting s) (l.flatMap fun t => (f t).map (Group.value t)) =
      (l.filter fun t => t = s).flatMap fun t => (f t).map (Group.value t) := by
  induction l with
  | nil => rfl
  | cons t rest ih =>
    rw [List.flatMap_cons, under_append, ih]
    by_cases hSame : t = s
    · simp [under, Group.key, hSame]
    · simp [under, Group.key, hSame]

theorem under_map_flag
    (l : List Flag)
    (f : Flag) :
    under (.flag f) (l.map Group.flag) =
      (l.filter fun t => t = f).map Group.flag := by
  simp [under, Group.key, List.filter_map, Function.comp_def]

theorem under_map_flag_of_setting
    (s : Setting)
    (l : List Flag) :
    under (.setting s) (l.map Group.flag) = [] := by
  refine under_eq_nil fun g hMem => ?_
  rcases List.mem_map.mp hMem with ⟨f, -, rfl⟩
  exact nofun

/- A word that stands apart and is no option, though it may be a dash. -/
def Standalone
    (word : String) : Prop :=
  word.toList.head? = some '-' → word = "-"

/- The texts that an option takes as they are. -/
def Setting.Fits : Setting → String → Prop
  | .output, text => text ≠ ""
  | .search, text => text ≠ ""
  | .configFile, text => text ≠ ""
  | .logFile, text => text ≠ ""
  | .align, text => ∃ n < 4294967296, text = toString n
  | .report, text => ∃ f, text = reportName f
  | _, _ => True

/- Groups that are read as what they stand for. -/
inductive Group.Fits : Group → Prop where
  | value
      {s : Setting}
      {text : String}
      (hArity : s.arity = 1)
      (hText : s.Fits text) :
      Fits (.value s text)
  | flag
      (f : Flag) :
      Fits (.flag f)
  | outputs
      {asm header : String}
      (hPaths : "" ∉ [asm, header])
      (hAsm : Standalone asm)
      (hHeader : Standalone header) :
      Fits (.outputs asm header)

/- Such a group has as many values as its option takes. -/
theorem Group.Fits.length_values
    {g : Group}
    {s : Setting}
    (hFits : g.Fits)
    (hKey : g.key = .setting s) :
    g.values.length = s.arity := by
  cases hFits with
  | value hArity hText =>
    cases hKey
    exact hArity.symm
  | flag f => cases hKey
  | outputs hPaths hAsm hHeader =>
    cases hKey
    rfl

end CommandLine

namespace Invocation

open CommandLine

variable {i : Invocation} {asm header : String}

/-
  The texts that are written for an option.  Those that an invocation
  has without being told can be left out.
-/
def written
    (i : Invocation)
    (terse : Bool)
    (s : Setting) : List String :=
  if terse ∧ i.texts s = ({} : Invocation).texts s then [] else i.texts s

/- An invocation as groups of words, in a fixed order. -/
def groups
    (i : Invocation)
    (terse : Bool) : List Group :=
  (singles.flatMap fun s => (i.written terse s).map (Group.value s)) ++
    (flags.filter i.raised).map Group.flag ++
    match i.outputs with
    | [asm, header] => [.outputs asm header]
    | _ => []

/- The groups of an option that takes one value at a time. -/
theorem under_groups_single
    {s : Setting}
    (hArity : s.arity = 1)
    (hOutputs : i.outputs = [asm, header])
    (terse : Bool) :
    under (.setting s) (i.groups terse) =
      (i.written terse s).map (Group.value s) := by
  have hOnce : singles.filter (fun t => t = s) = [s] := by
    cases s <;> first | rfl | cases hArity
  have hFlags : under (.setting s) ((flags.filter i.raised).map Group.flag) = [] :=
    under_map_flag_of_setting s _
  have hLast : under (.setting s) [.outputs asm header] = [] := by
    refine under_eq_nil fun g hMem => ?_
    cases List.mem_singleton.mp hMem
    rintro ⟨⟩
    cases hArity
  simp only [groups, hOutputs, under_append, under_flatMap_value, hOnce,
    hFlags, hLast, List.flatMap_singleton, List.append_nil]

theorem under_groups_output
    (hOutputs : i.outputs = [asm, header])
    (terse : Bool) :
    under (.setting .output) (i.groups terse) = [.outputs asm header] := by
  have hNone : singles.filter (fun t => t = .output) = [] := rfl
  have hFlags : under (.setting .output)
      ((flags.filter i.raised).map Group.flag) = [] :=
    under_map_flag_of_setting .output _
  simp only [groups, hOutputs, under_append, under_flatMap_value, hNone,
    hFlags, List.flatMap_nil, List.nil_append]
  rfl

theorem under_groups_flag
    (hOutputs : i.outputs = [asm, header])
    (terse : Bool)
    (f : Flag) :
    under (.flag f) (i.groups terse) = if i.raised f then [.flag f] else [] := by
  have hSingles : under (.flag f)
      (singles.flatMap fun s => (i.written terse s).map (Group.value s)) = [] := by
    refine under_eq_nil fun g hMem => ?_
    rcases List.mem_flatMap.mp hMem with ⟨s, -, hValue⟩
    rcases List.mem_map.mp hValue with ⟨text, -, rfl⟩
    exact nofun
  have hOnce : flags.filter (fun t => t = f) = [f] := by
    cases f <;> rfl
  have hFlags : (flags.filter i.raised).filter (fun t => t = f) =
      if i.raised f then [f] else [] := by
    rw [List.filter_comm, hOnce, List.filter_singleton, cond_eq_ite]
  have hLast : under (.flag f) [.outputs asm header] = [] := rfl
  simp only [groups, hOutputs, under_append, hSingles, under_map_flag, hFlags,
    hLast, List.nil_append, List.append_nil]
  split <;> rfl

/- An option that can be given once has one text at most. -/
theorem length_texts_le_one
    {s : Setting}
    (hOnce : s.repeatable = false) :
    (i.texts s).length ≤ 1 := by
  have hOption : ∀ {α : Type} (a : Option α), a.toList.length ≤ 1 := by
    intro α a
    cases a <;> simp
  cases s with
  | output | search | includes => cases hOnce
  | align =>
    rw [texts, List.length_map]
    exact hOption i.align
  | report => exact Nat.le_refl 1
  | symbolPrefix | scope | guard | resourceClass | configFile | logLevel
  | logFormat | logOutput | logFile => exact hOption _

theorem length_written_le
    (i : Invocation)
    (terse : Bool)
    (s : Setting) :
    (i.written terse s).length ≤ (i.texts s).length := by
  unfold written
  split
  · exact Nat.zero_le _
  · exact Nat.le_refl _

/- All options but two have one group at most. -/
theorem length_under_groups_le_one
    (hOutputs : i.outputs = [asm, header])
    (terse : Bool)
    (k : Switch)
    (hSearch : k ≠ .setting .search)
    (hIncludes : k ≠ .setting .includes) :
    (under k (i.groups terse)).length ≤ 1 := by
  cases k with
  | setting s =>
    by_cases hOutput : s = .output
    · subst hOutput
      rw [under_groups_output hOutputs]
      exact Nat.le_refl 1
    · have hOnce : s.repeatable = false := by
        cases s <;> first | rfl | contradiction
      rw [under_groups_single (arity_eq_one hOutput) hOutputs, List.length_map]
      exact Nat.le_trans (i.length_written_le terse s) (length_texts_le_one hOnce)
  | flag f =>
    rw [under_groups_flag hOutputs]
    split <;> simp
  | help =>
    have hNone : under .help (i.groups terse) = [] := by
      refine under_eq_nil fun g _ => ?_
      cases g <;> exact nofun
    rw [hNone]
    exact Nat.zero_le 1

theorem atMostOnce_groups
    (hOutputs : i.outputs = [asm, header])
    (terse : Bool) :
    AtMostOnce (i.groups terse) := by
  intro k hKey
  refine length_under_groups_le_one hOutputs terse k ?_ ?_
  · rintro rfl
    cases hKey
  · rintro rfl
    cases hKey

/- Where there is no list in force, the one that is given is. -/
theorem listOr_nil
    (given : List String) :
    listOr given [] = given := by
  cases given <;> rfl

/- Only the report has a text without being told. -/
theorem listOr_texts
    (i : Invocation)
    (s : Setting) :
    listOr (i.texts s) (({} : Invocation).texts s) = i.texts s := by
  cases s with
  | report => rfl
  | output | symbolPrefix | search | scope | guard | includes | resourceClass
  | configFile | align | logLevel | logFormat | logOutput | logFile =>
    exact listOr_nil _

/- The values that are written are the texts of the invocation. -/
theorem listOr_valuesOf_groups
    (hOutputs : i.outputs = [asm, header])
    (terse : Bool)
    (s : Setting) :
    listOr (valuesOf s (i.groups terse)) (({} : Invocation).texts s) =
      i.texts s := by
  by_cases hOutput : s = .output
  · subst hOutput
    rw [valuesOf, under_groups_output hOutputs]
    exact hOutputs.symm
  · have hValues : valuesOf s (i.groups terse) = i.written terse s := by
      rw [valuesOf, under_groups_single (arity_eq_one hOutput) hOutputs,
        List.flatMap_map]
      exact List.flatMap_singleton' _
    rw [hValues, written]
    split
    · next hDefault => exact hDefault.2.symm
    · exact i.listOr_texts s

/- A flag is among the groups if it is raised. -/
theorem flag_mem_groups_iff
    (hOutputs : i.outputs = [asm, header])
    (terse : Bool)
    (f : Flag) :
    Group.flag f ∈ i.groups terse ↔ i.raised f = true := by
  have hUnder : Group.flag f ∈ under (.flag f) (i.groups terse) ↔
      Group.flag f ∈ i.groups terse := by
    simp [under, Group.key]
  rw [← hUnder, under_groups_flag hOutputs]
  by_cases hRaised : i.raised f = true <;> simp [hRaised]

/- The texts of an invocation whose paths have some text are taken. -/
theorem fits_of_mem_texts
    (hNamed : i.PathsNamed)
    (hAlign : ∀ n, i.align = some n → n < 4294967296)
    {s : Setting}
    {text : String}
    (hMem : text ∈ i.texts s) :
    s.Fits text := by
  cases s with
  | output =>
    rintro rfl
    exact hNamed.outputs hMem
  | search =>
    rintro rfl
    exact hNamed.search hMem
  | configFile =>
    rintro rfl
    exact hNamed.configFile (Option.mem_toList.mp hMem)
  | logFile =>
    rintro rfl
    exact hNamed.logFile (Option.mem_toList.mp hMem)
  | align =>
    rcases List.mem_map.mp hMem with ⟨n, hGiven, rfl⟩
    exact ⟨n, hAlign n (Option.mem_toList.mp hGiven), rfl⟩
  | report => exact ⟨i.report, List.mem_singleton.mp hMem⟩
  | symbolPrefix | scope | guard | includes | resourceClass | logLevel
  | logFormat | logOutput => exact trivial

/- So are all groups that it is written as. -/
theorem fits_of_mem_groups
    (hOutputs : i.outputs = [asm, header])
    (hNamed : i.PathsNamed)
    (hAlign : ∀ n, i.align = some n → n < 4294967296)
    (hAsm : Standalone asm)
    (hHeader : Standalone header)
    {terse : Bool}
    {g : Group}
    (hMem : g ∈ i.groups terse) :
    g.Fits := by
  simp only [groups, hOutputs, List.mem_append, List.mem_singleton] at hMem
  rcases hMem with (hValue | hFlag) | rfl
  · rcases List.mem_flatMap.mp hValue with ⟨s, hSingle, hText⟩
    rcases List.mem_map.mp hText with ⟨text, hWritten, rfl⟩
    have hOutput : s ≠ .output := by
      rintro rfl
      exact absurd hSingle (by decide)
    have hGiven : text ∈ i.texts s := by
      unfold written at hWritten
      split at hWritten
      · cases hWritten
      · exact hWritten
    exact .value (arity_eq_one hOutput) (fits_of_mem_texts hNamed hAlign hGiven)
  · rcases List.mem_map.mp hFlag with ⟨f, -, rfl⟩
    exact .flag f
  · exact .outputs (hOutputs ▸ hNamed.outputs) hAsm hHeader

end Invocation

end ResourcePack
