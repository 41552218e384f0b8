import Mathlib.Data.List.TakeWhile
import ResourcePack.Proofs.CommandLine.Groups

/-
  Command lines read back as the invocation that they were written from.

  Key definitions include:
    * `ResourcePack.CommandLine.Stored`
    * `ResourcePack.Invocation.Holds`
    * `ResourcePack.CommandLine.Reader.Between`

  Main declarations:
    * `ResourcePack.CommandLine.exists_storeAll`
    * `ResourcePack.CommandLine.Reader.Between.step`
    * `ResourcePack.CommandLine.Reader.Between.run`
    * `ResourcePack.CommandLine.parse_groups`

  A reader that stands between two groups waits for no value, and once
  the values that it has are stored, its invocation holds what the
  groups say and no more.  Every group leads from such a reader to
  another one, whatever the texts in it are.
-/

------------------------------------------------------------
-- Storing Values
------------------------------------------------------------

namespace ResourcePack

namespace CommandLine

/-
  Values have been stored for an option: behind the earlier ones if it
  can be given again, or else in their place.
-/
structure Stored
    (i : Invocation)
    (s : Setting)
    (values : List String)
    (i' : Invocation) : Prop where
  own : i'.texts s = (if s.repeatable then i.texts s else []) ++ values
  other : ∀ t, t ≠ s → i'.texts t = i.texts t
  raised : i'.raised = i.raised
  resources : i'.resources = i.resources

theorem path_eq_ok
    {text : String}
    (hNe : text ≠ "") :
    path text = .ok text :=
  path_eq_ok_iff.mpr ⟨rfl, hNe⟩

/- A text that an option takes is stored. -/
theorem exists_store
    {s : Setting}
    {text : String}
    (hFits : s.Fits text)
    (i : Invocation) :
    ∃ i', store i s text = .ok i' ∧ Stored i s [text] i' := by
  cases s with
  | output | search | configFile | logFile =>
    rw [store, path_eq_ok hFits]
    refine ⟨_, rfl, rfl, fun t hNe => ?_, rfl, rfl⟩
    cases t <;> first | rfl | exact absurd rfl hNe
  | align =>
    rcases hFits with ⟨n, hSize, rfl⟩
    rw [store, alignment_toString hSize]
    refine ⟨_, rfl, rfl, fun t hNe => ?_, rfl, rfl⟩
    cases t <;> first | rfl | exact absurd rfl hNe
  | report =>
    rcases hFits with ⟨f, rfl⟩
    rw [store, reportFormat_reportName]
    refine ⟨_, rfl, rfl, fun t hNe => ?_, rfl, rfl⟩
    cases t <;> first | rfl | exact absurd rfl hNe
  | symbolPrefix | scope | guard | includes | resourceClass | logLevel
  | logFormat | logOutput =>
    refine ⟨_, rfl, rfl, fun t hNe => ?_, rfl, rfl⟩
    cases t <;> first | rfl | exact absurd rfl hNe

/- For an option that can be given again, so is one after the other. -/
theorem Stored.append
    {i i₁ i₂ : Invocation}
    {s : Setting}
    {first last : List String}
    (hFirst : Stored i s first i₁)
    (hLast : Stored i₁ s last i₂)
    (hAgain : s.repeatable = true) :
    Stored i s (first ++ last) i₂ where
  own := by
    rw [hLast.own, hFirst.own, if_pos hAgain, if_pos hAgain, List.append_assoc]
  other t hNe := (hLast.other t hNe).trans (hFirst.other t hNe)
  raised := hLast.raised.trans hFirst.raised
  resources := hLast.resources.trans hFirst.resources

theorem exists_storeAll
    {g : Group}
    {s : Setting}
    (hFits : g.Fits)
    (hKey : g.key = .setting s)
    (i : Invocation) :
    ∃ i', storeAll i s g.values = .ok i' ∧ Stored i s g.values i' := by
  cases hFits with
  | value hArity hText =>
    cases hKey
    rcases exists_store hText i with ⟨i', hStore, hStored⟩
    refine ⟨i', ?_, hStored⟩
    simp only [Group.values, storeAll, hStore]
  | flag f => cases hKey
  | @outputs asm header hPaths hAsm hHeader =>
    cases hKey
    have hFit : ∀ text ∈ [asm, header], Setting.output.Fits text :=
      fun text hMem hEmpty => hPaths (hEmpty ▸ hMem)
    rcases exists_store (hFit asm (by simp)) i with ⟨i₁, hStore₁, hStored₁⟩
    rcases exists_store (hFit header (by simp)) i₁ with
      ⟨i₂, hStore₂, hStored₂⟩
    refine ⟨i₂, ?_, hStored₁.append hStored₂ rfl⟩
    simp only [Group.values, storeAll, hStore₁, hStore₂]

end CommandLine

end ResourcePack

------------------------------------------------------------
-- What Groups Say
------------------------------------------------------------

namespace ResourcePack

namespace Invocation

open CommandLine

variable {i i' : Invocation} {gs : List Group} {g : Group}

/-
  An invocation holds what the groups say: of an option that is not
  among them it has what it has without being told.
-/
structure Holds
    (i : Invocation)
    (gs : List Group) : Prop where
  texts : ∀ s, i.texts s = listOr (valuesOf s gs) (({} : Invocation).texts s)
  raised : ∀ f, i.raised f = true ↔ Group.flag f ∈ gs
  resources : i.resources = []

theorem holds_nil :
    ({} : Invocation).Holds [] where
  texts s := rfl
  raised f := by cases f <;> simp [Invocation.raised]
  resources := rfl

/- An option that can be given again has no texts without being told. -/
theorem texts_eq_nil
    {s : Setting}
    (hAgain : s.repeatable = true) :
    ({} : Invocation).texts s = [] := by
  cases s <;> first | rfl | cases hAgain

theorem listOr_of_ne_nil
    {given : List String}
    (hNe : given ≠ [])
    (default : List String) :
    listOr given default = given := by
  cases given with
  | nil => exact absurd rfl hNe
  | cons value rest => rfl

/- The values of a group that is stored are held with the others. -/
theorem Holds.stored
    {s : Setting}
    (hHolds : i.Holds gs)
    (hKey : g.key = .setting s)
    (hNew : s.repeatable = false → under (.setting s) gs = [])
    (hStored : Stored i s g.values i') :
    i'.Holds (gs ++ [g]) where
  texts t := by
    by_cases hSame : t = s
    · subst hSame
      have hGiven : valuesOf t gs ++ g.values ≠ [] :=
        List.append_ne_nil_of_right_ne_nil _ (Group.values_ne_nil hKey)
      rw [valuesOf_append, valuesOf_singleton hKey, listOr_of_ne_nil hGiven,
        hStored.own]
      split
      · next hAgain => rw [hHolds.texts, texts_eq_nil hAgain, listOr_nil]
      · next hOnce =>
        rw [valuesOf, hNew (by simpa using hOnce), List.flatMap_nil]
    · have hOther : g.key ≠ .setting t := by
        rw [hKey]
        exact fun hEq => hSame (Switch.setting.inj hEq).symm
      rw [hStored.other t hSame, hHolds.texts, valuesOf_append,
        valuesOf_singleton_of_ne hOther, List.append_nil]
  raised f := by
    have hNe : Group.flag f ≠ g := by
      rintro rfl
      cases hKey
    rw [hStored.raised, hHolds.raised, List.mem_append, List.mem_singleton]
    exact (or_iff_left hNe).symm
  resources := hStored.resources.trans hHolds.resources

/- So is a flag that is raised. -/
theorem Holds.raise
    {f : Flag}
    (hHolds : i.Holds gs) :
    (CommandLine.raise i f).Holds (gs ++ [.flag f]) where
  texts t := by
    have hOther : (Group.flag f).key ≠ .setting t := nofun
    rw [valuesOf_append, valuesOf_singleton_of_ne hOther, List.append_nil,
      ← hHolds.texts]
    cases f <;> rfl
  raised f' := by
    have hRaised : (CommandLine.raise i f).raised f' = true ↔
        i.raised f' = true ∨ f' = f := by
      cases f <;> cases f' <;> simp [CommandLine.raise, Invocation.raised]
    rw [hRaised, hHolds.raised, List.mem_append, List.mem_singleton,
      Group.flag.injEq]
  resources := by cases f <;> exact hHolds.resources

end Invocation

end ResourcePack

------------------------------------------------------------
-- Reading Groups
------------------------------------------------------------

namespace ResourcePack

namespace CommandLine

namespace Reader

variable {r r₁ : Reader} {gs : List Group} {g : Group} {i : Invocation}

/- The reader whose invocation is what it has read, with nothing pending. -/
def after
    (gs : List Group)
    (i : Invocation) : Reader :=
  { invocation := i, given := (gs.map Group.key).reverse }

/-
  A reader between two groups: no value is awaited, and what is pending
  can be stored, which gives what the groups say.
-/
structure Between
    (r : Reader)
    (gs : List Group) : Prop where
  awaiting : r.awaiting? = none
  optionsToo : r.resourcesOnly = false
  settled : ∃ i, r.settle = .ok (after gs i) ∧ i.Holds gs

/- With nothing pending, a reader is between two groups. -/
theorem between_after
    (hHolds : i.Holds gs) :
    (after gs i).Between gs :=
  ⟨rfl, rfl, i, rfl, hHolds⟩

/- The characters of a name without an equals sign are no such signs. -/
theorem ne_equals_of_mem
    {name : List Char}
    (hName : '=' ∉ name) :
    ∀ c ∈ name, decide (c ≠ '=') = true := by
  intro c hMem
  rw [decide_eq_true_eq]
  rintro rfl
  exact hName hMem

/- A name and a value are taken apart at the first equals sign. -/
theorem splitLong_equals
    {name : List Char}
    (hName : '=' ∉ name)
    (value : List Char) :
    splitLong (name ++ '=' :: value) = (name, some value) := by
  rw [splitLong, List.dropWhile_append_of_pos (ne_equals_of_mem hName),
    List.takeWhile_append_of_pos (ne_equals_of_mem hName)]
  simp

theorem splitLong_name
    {name : List Char}
    (hName : '=' ∉ name) :
    splitLong name = (name, none) := by
  rw [splitLong, List.dropWhile_eq_nil_iff.mpr (ne_equals_of_mem hName)]

/- A word of a long option is read as one where no value is awaited. -/
theorem read_long
    {word : String}
    {text : List Char}
    (hAwaiting : r.awaiting? = none)
    (hOptions : r.resourcesOnly = false)
    (hWord : word.toList = '-' :: '-' :: text)
    (hNe : text ≠ []) :
    r.read word = r.readLong text := by
  rw [read, hAwaiting, hOptions, hWord]
  cases text with
  | nil => exact absurd rfl hNe
  | cons c rest => rfl

/- A value that stands apart is read as one where it is awaited. -/
theorem read_standalone
    {word : String}
    {s : Setting}
    (hAwaiting : r.awaiting? = some s)
    (hOptions : r.resourcesOnly = false)
    (hOther : s.takesAnyWord = false)
    (hWord : Standalone word) :
    r.read word = .ok (r.addValue s word) := by
  have hPlain : r.readPlain word = .ok (r.addValue s word) := by
    rw [readPlain, hAwaiting]
  rw [read, hAwaiting, hOptions]
  simp only [Option.map_some, Option.getD_some, hOther, Bool.false_eq_true,
    ↓reduceIte]
  cases hList : word.toList with
  | nil => exact hPlain
  | cons c rest =>
    by_cases hDash : c = '-'
    · subst hDash
      have hEq : word = "-" := hWord (by rw [hList]; rfl)
      subst hEq
      cases hList
      exact hPlain
    · split
      · next hEq => exact absurd (List.cons.inj hEq).1 hDash
      · next hEq => exact absurd (List.cons.inj hEq).1 hDash
      · exact hPlain
      · next hEq => exact absurd (List.cons.inj hEq).1 hDash
      · exact hPlain

/- The values of a group are accepted behind those that were read. -/
theorem exists_accept
    {s : Setting}
    (hFits : g.Fits)
    (hKey : g.key = .setting s)
    (hNew : g.key.repeatable = false → under g.key gs = [])
    (hHolds : i.Holds gs) :
    ∃ i', (after gs i).accept s g.values = .ok (after (gs ++ [g]) i') ∧
      i'.Holds (gs ++ [g]) := by
  rcases exists_storeAll hFits hKey i with ⟨i', hStore, hStored⟩
  rw [hKey] at hNew
  refine ⟨i', ?_, hHolds.stored hKey hNew hStored⟩
  have hSome : g.values.isEmpty = false :=
    List.isEmpty_eq_false_iff.mpr (Group.values_ne_nil hKey)
  have hLength : g.values.length = s.arity := hFits.length_values hKey
  have hFree : ((after gs i).given.contains (.setting s) && !s.repeatable) = false := by
    cases hAgain : s.repeatable with
    | true => simp
    | false => simp [after, key_notMem (hNew hAgain)]
  have hInvocation : (after gs i).invocation = i := rfl
  rw [accept, hSome, hFree, hInvocation, hStore]
  simp [hLength, after, hKey]

theorem Between.step_value
    {s : Setting}
    {text : String}
    (hBetween : r.Between gs)
    (hFits : (Group.value s text).Fits)
    (hNew : s.repeatable = false → under (.setting s) gs = []) :
    ∃ r', r.readAll (Group.value s text).words = .ok r' ∧
      r'.Between (gs ++ [.value s text]) := by
  rcases hBetween with ⟨hAwaiting, hOptions, i, hSettle, hHolds⟩
  rcases exists_accept hFits rfl hNew hHolds with ⟨i', hAccept, hAfter⟩
  refine ⟨_, ?_, between_after hAfter⟩
  have hWord : ("--" ++ (Switch.setting s).longName ++ "=" ++ text).toList =
      '-' :: '-' :: ((Switch.setting s).longName.toList ++ '=' :: text.toList) := by
    simp
  have hLong : r.readLong
      ((Switch.setting s).longName.toList ++ '=' :: text.toList) =
      .ok (after (gs ++ [.value s text]) i') := by
    rw [readLong, splitLong_equals (equals_notMem_longName _)]
    simp only [long?_longName, addSetting, hSettle, String.ofList_toList]
    exact hAccept
  rw [Group.words, readAll, read_long hAwaiting hOptions hWord (by simp), hLong]
  rfl

theorem Between.step_flag
    {f : Flag}
    (hBetween : r.Between gs)
    (hNew : under (.flag f) gs = []) :
    ∃ r', r.readAll (Group.flag f).words = .ok r' ∧
      r'.Between (gs ++ [.flag f]) := by
  rcases hBetween with ⟨hAwaiting, hOptions, i, hSettle, hHolds⟩
  refine ⟨_, ?_, between_after (hHolds.raise (f := f))⟩
  have hWord : ("--" ++ (Switch.flag f).longName).toList =
      '-' :: '-' :: (Switch.flag f).longName.toList := by
    simp
  have hNe : (Switch.flag f).longName.toList ≠ [] := by
    cases f <;> decide +kernel
  have hFree : (after gs i).given.contains (.flag f) = false := by
    simp [after, key_notMem hNew]
  have hLong : r.readLong (Switch.flag f).longName.toList =
      .ok (after (gs ++ [.flag f]) (raise i f)) := by
    rw [readLong, splitLong_name (equals_notMem_longName _)]
    simp only [long?_longName, addFlag, hSettle, hFree]
    simp [after, Group.key]
  rw [Group.words, readAll, read_long hAwaiting hOptions hWord hNe, hLong]
  rfl

/- The outputs are read, each of them as a value. -/
theorem Between.step_outputs
    {asm header : String}
    (hBetween : r.Between gs)
    (hFits : (Group.outputs asm header).Fits) :
    ∃ r', r.readAll (Group.outputs asm header).words = .ok r' ∧
      r'.Between (gs ++ [.outputs asm header]) := by
  rcases hBetween with ⟨hAwaiting, hOptions, i, hSettle, hHolds⟩
  rcases exists_accept hFits rfl nofun hHolds with ⟨i', hAccept, hAfter⟩
  cases hFits with
  | outputs hPaths hAsm hHeader =>
    have hOption : r.read "-o" =
        .ok { after gs i with pending := some (.output, []) } := by
      have hWord : "-o".toList = ['-', 'o'] := by decide +kernel
      have hName : short? 'o' = some (.setting .output) := by decide +kernel
      have hShort : r.readShort ['o'] =
          .ok { after gs i with pending := some (.output, []) } := by
        simp only [readShort, hName, addSetting, hSettle, attachedValue]
      rw [read, hAwaiting, hOptions, hWord]
      exact hShort
    have hFirst : read { after gs i with pending := some (.output, []) } asm =
        .ok { after gs i with pending := some (.output, [asm]) } :=
      read_standalone (s := .output) rfl rfl rfl hAsm
    have hSecond : read { after gs i with pending := some (.output, [asm]) } header =
        .ok { after gs i with pending := some (.output, [asm, header]) } :=
      read_standalone (s := .output) rfl rfl rfl hHeader
    refine ⟨{ after gs i with pending := some (.output, [asm, header]) }, ?_,
      rfl, rfl, i', hAccept, hAfter⟩
    simp only [Group.words, readAll, hOption, hFirst, hSecond]

/- Every group leads from a reader between two groups to another one. -/
theorem Between.step
    (hBetween : r.Between gs)
    (hFits : g.Fits)
    (hNew : g.key.repeatable = false → under g.key gs = []) :
    ∃ r', r.readAll g.words = .ok r' ∧ r'.Between (gs ++ [g]) := by
  cases g with
  | value s text => exact hBetween.step_value hFits hNew
  | flag f => exact hBetween.step_flag (hNew rfl)
  | outputs asm header => exact hBetween.step_outputs hFits

theorem readAll_append
    {words rest : List String}
    (hRead : r.readAll words = .ok r₁) :
    r.readAll (words ++ rest) = r₁.readAll rest := by
  induction words generalizing r with
  | nil =>
    cases hRead
    rfl
  | cons word words ih =>
    unfold readAll at hRead
    split at hRead
    · next r₂ hWord =>
      rw [List.cons_append, readAll, hWord]
      exact ih hRead
    · cases hRead

/-
  Many groups do so as well.  The induction is on those that are left;
  it is carried by all of them together having each option once at most.
-/
theorem Between.run
    {done rest : List Group}
    (hBetween : r.Between done)
    (hFits : ∀ g ∈ rest, g.Fits)
    (hOnce : AtMostOnce (done ++ rest)) :
    ∃ r', r.readAll (rest.flatMap Group.words) = .ok r' ∧
      r'.Between (done ++ rest) := by
  induction rest generalizing r done with
  | nil => exact ⟨r, rfl, by rwa [List.append_nil]⟩
  | cons g rest ih =>
    rw [List.forall_mem_cons] at hFits
    rcases hBetween.step hFits.1 hOnce.under_eq_nil with ⟨r₁, hGroup, hNext⟩
    rw [List.append_cons] at hOnce
    rcases ih hNext hFits.2 hOnce with ⟨r', hRest, hLast⟩
    refine ⟨r', ?_, by rwa [List.append_cons]⟩
    rw [List.flatMap_cons, readAll_append hGroup, hRest]

/- The same reader behind the mark after which all words are resources. -/
def closed
    (r : Reader) : Reader :=
  { r with resourcesOnly := true }

@[simp] theorem closed_given
    (r : Reader) :
    r.closed.given = r.given :=
  rfl

@[simp] theorem closed_invocation
    (r : Reader) :
    r.closed.invocation = r.invocation :=
  rfl

theorem accept_closed
    (r : Reader)
    (s : Setting)
    (values : List String) :
    r.closed.accept s values = (r.accept s values).map closed := by
  unfold accept
  rw [closed_given, closed_invocation]
  split
  · rfl
  · split
    · rfl
    · split
      · rfl
      · cases storeAll r.invocation s values <;> rfl

theorem settle_closed
    (r : Reader) :
    r.closed.settle = r.settle.map closed := by
  obtain ⟨i, given, pending, only⟩ := r
  cases pending with
  | none => rfl
  | some pending =>
    rcases pending with ⟨s, values⟩
    exact accept_closed ⟨i, given, none, only⟩ s values

/- All words are resources where nothing else is left to be read. -/
theorem readAll_closed
    (hOnly : r.resourcesOnly = true)
    (hSettle : r.settle = .ok (after gs i).closed)
    (words : List String) :
    ∃ r', r.readAll words = .ok r' ∧
      r'.settle = .ok (after gs { i with resources := i.resources ++ words }).closed := by
  induction words generalizing r i with
  | nil =>
    refine ⟨r, rfl, ?_⟩
    rw [hSettle, List.append_nil]
  | cons word rest ih =>
    have hWord : r.read word =
        .ok (after gs { i with resources := i.resources ++ [word] }).closed := by
      rw [read, if_pos hOnly, addResource, hSettle]
      rfl
    rcases ih (r := (after gs { i with resources := i.resources ++ [word] }).closed)
      rfl rfl with ⟨r', hRest, hLast⟩
    refine ⟨r', ?_, ?_⟩
    · rw [readAll, hWord]
      exact hRest
    · rw [hLast, List.append_assoc]
      rfl

end Reader

/-
  Groups that each fit, with no option too often and the outputs among
  them, are read as what they say, and so are any resources behind them.
-/
theorem exists_parse
    {gs : List Group}
    (hFits : ∀ g ∈ gs, g.Fits)
    (hOnce : AtMostOnce gs)
    (hOutput : .setting .output ∈ gs.map Group.key)
    (resources : List String) :
    ∃ i : Invocation, i.Holds gs ∧
      parse (gs.flatMap Group.words ++ "--" :: resources) =
        .ok { i with resources := resources } := by
  have hStart : ({} : Reader).Between [] := Reader.between_after Invocation.holds_nil
  rcases hStart.run hFits hOnce with ⟨r, hRead, hAwaiting, hOptions, i, hSettle, hHolds⟩
  refine ⟨i, hHolds, ?_⟩
  have hMark : r.read "--" = .ok r.closed := by
    have hWord : "--".toList = ['-', '-'] := by decide +kernel
    rw [Reader.read, hAwaiting, hOptions, hWord]
    rfl
  have hClosed : r.closed.settle = .ok (Reader.after gs i).closed := by
    rw [Reader.settle_closed, hSettle]
    rfl
  rcases Reader.readAll_closed rfl hClosed resources with ⟨r', hRest, hLast⟩
  rw [hHolds.resources] at hLast
  have hGiven : (Reader.after gs i).given.contains (.setting .output) = true := by
    simpa [Reader.after] using hOutput
  rw [parse, Reader.readAll_append hRead, Reader.readAll, hMark]
  simp only [hRest, hLast]
  exact if_pos hGiven

end CommandLine

end ResourcePack

------------------------------------------------------------
-- Reading What Was Written
------------------------------------------------------------

namespace ResourcePack

namespace CommandLine

/-
  An invocation that is written as groups of words is read back, in
  whatever order the groups are, and it asks for what it asked for.  The
  search directories keep their order, and so do the headers to include;
  the outputs are no options, but they can be a lone dash.
-/
theorem parse_reordered
    {i : Invocation}
    {asm header : String}
    {terse : Bool}
    {gs : List Group}
    (hOutputs : i.outputs = [asm, header])
    (hAsm : Standalone asm)
    (hHeader : Standalone header)
    (hNamed : i.PathsNamed)
    (hAlign : ∀ n, i.align = some n → n < 4294967296)
    (hOrder : Reordered gs (i.groups terse)) :
    parse (gs.flatMap Group.words ++ "--" :: i.resources) = .ok i ∧
      i.request = .ok ⟨i.resources, asm, header⟩ := by
  have hFits : ∀ g ∈ gs, g.Fits := fun g hMem =>
    Invocation.fits_of_mem_groups hOutputs hNamed hAlign hAsm hHeader
      (hOrder.perm.mem_iff.mp hMem)
  have hOnce : AtMostOnce gs :=
    hOrder.atMostOnce (Invocation.atMostOnce_groups hOutputs terse)
  have hUnder : ∀ k, under k gs = under k (i.groups terse) :=
    hOrder.under_eq (Invocation.length_under_groups_le_one hOutputs terse)
  have hOutput : .setting .output ∈ gs.map Group.key := by
    have hMem : Group.outputs asm header ∈ under (.setting .output) gs := by
      rw [hUnder, Invocation.under_groups_output hOutputs]
      exact List.mem_singleton_self _
    exact List.mem_map_of_mem (List.mem_of_mem_filter hMem)
  rcases exists_parse hFits hOnce hOutput i.resources with ⟨j, hHolds, hParse⟩
  have hSame : { j with resources := i.resources } = i := by
    refine Invocation.eq_of_texts (fun s => ?_) (fun f => ?_) rfl
    · have hTexts := hHolds.texts s
      rw [valuesOf, hUnder] at hTexts
      have hWritten := Invocation.listOr_valuesOf_groups hOutputs terse s
      rw [valuesOf, ← hTexts] at hWritten
      rw [← hWritten]
      cases s <;> rfl
    · have hRaised : j.raised f = i.raised f := by
        rw [Bool.eq_iff_iff, hHolds.raised, hOrder.perm.mem_iff,
          Invocation.flag_mem_groups_iff hOutputs]
      rw [← hRaised]
      cases f <;> rfl
  rw [hParse, hSame, Invocation.request, hOutputs]
  exact ⟨rfl, rfl⟩

/- An invocation whose texts look like options. -/
def lookalikes : Invocation where
  resources := ["--help", "", "-o", "a=b", "--"]
  outputs := ["-", "include dir/-x=y.h"]
  symbolPrefix := some "--prefix=-p"
  search := ["-S", "a=b", "-S"]
  scope := some ""
  guard := some "--sorted"
  includes := ["", "-I=<x.h>"]
  configFile := some "--"
  align := some 4294967295
  verbose := true
  sorted := true
  logFile := some "=-v"

/- Such an invocation is read back from groups in a mixed order. -/
theorem parse_reordered_lookalikes :
    parse ["--search=-S", "--verbose", "--include=", "--log-file==-v",
      "--search=a=b", "--config=--", "-o", "-", "include dir/-x=y.h",
      "--prefix=--prefix=-p", "--align=4294967295", "--include=-I=<x.h>",
      "--namespace=", "--search=-S", "--sorted", "--guard=--sorted",
      "--", "--help", "", "-o", "a=b", "--"] = .ok lookalikes ∧
    lookalikes.request = .ok ⟨["--help", "", "-o", "a=b", "--"], "-",
      "include dir/-x=y.h"⟩ :=
  @parse_reordered lookalikes "-" "include dir/-x=y.h" true
    [.value .search "-S", .flag .verbose, .value .includes "",
      .value .logFile "=-v", .value .search "a=b", .value .configFile "--",
      .outputs "-" "include dir/-x=y.h", .value .symbolPrefix "--prefix=-p",
      .value .align "4294967295", .value .includes "-I=<x.h>",
      .value .scope "", .value .search "-S", .flag .sorted,
      .value .guard "--sorted"]
    rfl (fun _ => rfl) (fun hDash => absurd hDash (by decide +kernel))
    ⟨by decide +kernel, by decide +kernel, by decide +kernel, by decide +kernel⟩
    (fun n hGiven => Option.some.inj hGiven ▸ by decide)
    ⟨by decide +kernel, by decide +kernel, by decide +kernel⟩

end CommandLine

end ResourcePack
