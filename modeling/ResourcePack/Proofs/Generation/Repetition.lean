import ResourcePack.Proofs.Bundle.Acceptance
import ResourcePack.Proofs.Generation.Failures
import ResourcePack.Proofs.Store.Rewriting

/-
  A run made again on the store that it has left.

  Key definitions include:
    * `ResourcePack.Store.described?`
    * `ResourcePack.Store.tried`
    * `ResourcePack.Resource.unfiled`

  Main declarations:
    * `ResourcePack.Resource.returns_resolve_store_iff`
    * `ResourcePack.Resource.returns_resolveAll_again`
    * `ResourcePack.Generation.returns_generate_iff_ready`
    * `ResourcePack.Generation.generate_again`

  The second run finds a file for every name, as the first has done,
  and writes the same assembly file.  It finds the same files unless
  the outputs of the first lie where it looks: only then can its
  report and its header be different.
-/

------------------------------------------------------------
-- Where Names Are Found
------------------------------------------------------------

namespace ResourcePack

namespace Store

/-
  The absolute path and the size of the first regular file of a name
  in the search directories.
-/
def described?
    (s : Store)
    (name : String)
    (directories : List String) : Option (String × Nat) := do
  let path ← s.firstFile? name directories
  let (l, e) ← (s.find path).toOption
  return (Path.ofNames l, e.size)

/-
  The paths that are looked at for a name: one for each search
  directory, up to the first at which there is a regular file.
-/
def tried
    (s : Store)
    (name : String) : List String → List String
  | [] => []
  | directory :: rest =>
    if s.isFile (Path.join directory name) then
      [Path.join directory name]
    else
      Path.join directory name :: s.tried name rest

variable {s s' : Store} {name : String} {directories : List String}

/- What is told of a name is told of the first file of that name. -/
theorem described?_eq_some_iff
    {path : String}
    {size : Nat} :
    s.described? name directories = some (path, size) ↔
      ∃ found l contents, s.firstFile? name directories = some found ∧
        s.find found = .ok (l, .file contents) ∧
        path = Path.ofNames l ∧ size = contents.size := by
  unfold described?
  cases hFirst : s.firstFile? name directories with
  | none => simp
  | some found =>
    rcases Resource.file_of_firstFile? hFirst with ⟨l, contents, hFind⟩
    simp [hFind, Except.toOption, Entry.size, eq_comm]

/- Something is told of a name if it has a file anywhere. -/
theorem exists_described?_iff :
    (∃ found, s.described? name directories = some found) ↔
      ∃ directory ∈ directories,
        s.isFile (Path.join directory name) = true := by
  constructor
  · rintro ⟨⟨path, size⟩, hFound⟩
    rcases described?_eq_some_iff.mp hFound with ⟨found, l, _, hFirst, -⟩
    have hMem := List.mem_of_find?_eq_some hFirst
    rcases List.mem_map.mp hMem with ⟨directory, hDirectory, rfl⟩
    exact ⟨directory, hDirectory, List.find?_some hFirst⟩
  · rintro ⟨directory, hDirectory, hFile⟩
    have hSome : (s.firstFile? name directories).isSome = true := by
      rw [firstFile?, List.find?_isSome]
      exact ⟨_, List.mem_map_of_mem hDirectory, hFile⟩
    rcases Option.isSome_iff_exists.mp hSome with ⟨found, hFirst⟩
    rcases Resource.file_of_firstFile? hFirst with ⟨l, contents, hFind⟩
    exact ⟨(Path.ofNames l, contents.size),
      described?_eq_some_iff.mpr
        ⟨found, l, contents, hFirst, hFind, rfl, rfl⟩⟩

/- The first file of a name is the last path that is looked at. -/
theorem mem_tried_of_firstFile?
    {path : String}
    (hFirst : s.firstFile? name directories = some path) :
    path ∈ s.tried name directories := by
  unfold firstFile? at hFirst
  induction directories with
  | nil => cases hFirst
  | cons directory rest ih =>
    rw [List.map_cons, List.find?_cons] at hFirst
    rw [tried]
    cases hHere : s.isFile (Path.join directory name) with
    | true =>
      rw [hHere, Option.some.injEq] at hFirst
      simp [hFirst]
    | false =>
      rw [hHere] at hFirst
      simp [ih hFirst]

/- The first file depends on the paths that are looked at. -/
theorem firstFile?_congr
    (hSame : ∀ path ∈ s.tried name directories,
      s'.isFile path = s.isFile path) :
    s'.firstFile? name directories = s.firstFile? name directories := by
  unfold firstFile?
  induction directories with
  | nil => rfl
  | cons directory rest ih =>
    rw [tried] at hSame
    rw [List.map_cons, List.find?_cons, List.find?_cons]
    cases hHere : s.isFile (Path.join directory name) with
    | true =>
      rw [hHere, if_pos rfl, List.forall_mem_singleton, hHere] at hSame
      rw [hSame]
    | false =>
      rw [hHere, if_neg Bool.false_ne_true, List.forall_mem_cons,
        hHere] at hSame
      rw [hSame.1]
      exact ih hSame.2

/-
  Where all paths that are looked at lead to the same entries as in
  another store, the same is found.
-/
theorem described?_congr
    (hSame : ∀ path ∈ s.tried name directories, ∀ l e,
      s'.find path = .ok (l, e) ↔ s.find path = .ok (l, e)) :
    s'.described? name directories = s.described? name directories := by
  have hFirst : s'.firstFile? name directories =
      s.firstFile? name directories := by
    apply firstFile?_congr
    intro path hMem
    rw [Bool.eq_iff_iff, isFile_iff, isFile_iff]
    simp only [hSame path hMem]
  ext ⟨path, size⟩
  rw [described?_eq_some_iff, described?_eq_some_iff, hFirst]
  refine exists_congr fun found => exists_congr fun l =>
    exists_congr fun contents => and_congr_right fun hFound => ?_
  rw [hSame found (mem_tried_of_firstFile? hFound)]

/- A name with a file has one when any file has been written. -/
theorem Wrote.exists_described?
    {path text : String}
    {l : Location}
    (hWrote : Wrote s path text l s')
    (hRooted : s.Rooted)
    (hFound : ∃ found, s.described? name directories = some found) :
    ∃ found, s'.described? name directories = some found := by
  rcases exists_described?_iff.mp hFound with ⟨directory, hMem, hFile⟩
  exact exists_described?_iff.mpr
    ⟨directory, hMem, hWrote.isFile hRooted hFile⟩

/-
  After two files were written, the same is found if no path that is
  looked at leads to either of them.
-/
theorem described?_of_apart
    {s₁ : Store}
    {first second text text' : String}
    {l₁ l₂ : Location}
    (hRooted : s.Rooted)
    (hFirst : Wrote s first text l₁ s₁)
    (hSecond : Wrote s₁ second text' l₂ s')
    (hApart : ∀ path ∈ s.tried name directories, ∀ l,
      s.locate .existing path = .ok l → l ≠ l₁ ∧ l ≠ l₂) :
    s'.described? name directories = s.described? name directories := by
  apply described?_congr
  intro path hTried l e
  rw [find_eq_ok_iff, find_eq_ok_iff,
    hSecond.locate_iff (hFirst.rooted hRooted), hFirst.locate_iff hRooted]
  refine and_congr_right fun hLocated => ?_
  rcases hApart path hTried l hLocated with ⟨hNotFirst, hNotSecond⟩
  rw [hSecond.get?_of_ne hNotSecond, hFirst.get?_of_ne hNotFirst]

end Store

end ResourcePack

------------------------------------------------------------
-- Resources of the Second Run
------------------------------------------------------------

namespace ResourcePack

namespace Resource

open Generation Identifier

/- A resource without what is known of its file. -/
def unfiled
    (r : Resource) : Resource :=
  { r with path := "", size := 0 }

variable {symbolPrefix name : String}
variable {directories names : List String}
variable {policy : Policy}
variable {s s' s₁ : Store}
variable {r : Resource}
variable {rs : List Resource}

/-
  In a store a name is resolved to its first file, and its symbol
  and its identifier do not depend on the store.
-/
theorem returns_resolve_store_iff :
    Returns (resolve symbolPrefix directories policy name) s r s' ↔
      s' = s ∧ ∃ path size fileName symbol ident,
        s.described? name directories = some (path, size) ∧
          Path.fileName? name = some fileName ∧
          Identifier.symbol symbolPrefix name policy = .ok symbol ∧
          ofFileName fileName policy = .ok ident ∧
          r = ⟨symbolPrefix, name, path, size, symbol, ident⟩ := by
  rw [returns_resolve_iff]
  constructor
  · rintro ⟨found, s₁, hFind, hDescribe⟩
    rcases returns_find_store_iff.mp hFind with ⟨rfl, hFirst⟩
    rcases file_of_firstFile? hFirst with ⟨l, contents, hFile⟩
    rcases (returns_describe_store_iff hFile).mp hDescribe with
      ⟨hSame, fileName, symbol, ident, hName, hSymbol, hIdent, hResource⟩
    exact ⟨hSame, _, _, fileName, symbol, ident,
      Store.described?_eq_some_iff.mpr
        ⟨found, l, contents, hFirst, hFile, rfl, rfl⟩,
      hName, hSymbol, hIdent, hResource⟩
  · rintro ⟨rfl, path, size, fileName, symbol, ident, hFound, hName,
      hSymbol, hIdent, hResource⟩
    rcases Store.described?_eq_some_iff.mp hFound with
      ⟨found, l, contents, hFirst, hFile, rfl, rfl⟩
    exact ⟨found, s', returns_find_store_iff.mpr ⟨rfl, hFirst⟩,
      (returns_describe_store_iff hFile).mpr
        ⟨rfl, fileName, symbol, ident, hName, hSymbol, hIdent, hResource⟩⟩

/- Names that were resolved have the files that are told of them. -/
theorem files_of_resolveAll
    (hReturns : Returns (resolveAll symbolPrefix directories policy names)
      s rs s') :
    rs.map (fun r => some (r.path, r.size)) =
      names.map (s.described? · directories) := by
  induction names generalizing rs with
  | nil =>
    rw [← (returns_pure_iff.mp hReturns).1]
    rfl
  | cons name rest ih =>
    rcases returns_resolveAll_cons_iff.mp hReturns with
      ⟨r, others, s₁, hFirst, hRest, rfl⟩
    rcases returns_resolve_store_iff.mp hFirst with
      ⟨rfl, path, size, _, _, _, hFound, -, -, -, rfl⟩
    rw [List.map_cons, List.map_cons, ih hRest, hFound]

/-
  Names that were resolved in one store are resolved in any other in
  which each of them has a file, and to the same resources but for
  these files.
-/
theorem returns_resolveAll_again
    (hReturns : Returns (resolveAll symbolPrefix directories policy names)
      s rs s₁)
    (hFiles : ∀ name ∈ names,
      ∃ found, s'.described? name directories = some found) :
    ∃ rs', Returns (resolveAll symbolPrefix directories policy names)
      s' rs' s' ∧ rs'.map unfiled = rs.map unfiled := by
  induction names generalizing s rs with
  | nil =>
    rw [← (returns_pure_iff.mp hReturns).1]
    exact ⟨[], returns_pure_iff.mpr ⟨rfl, rfl⟩, rfl⟩
  | cons name rest ih =>
    rw [List.forall_mem_cons] at hFiles
    rcases returns_resolveAll_cons_iff.mp hReturns with
      ⟨r, others, s₂, hFirst, hRest, rfl⟩
    rcases returns_resolve_store_iff.mp hFirst with
      ⟨-, _, _, fileName, symbol, ident, -, hName, hSymbol, hIdent, rfl⟩
    rcases hFiles with ⟨⟨⟨path, size⟩, hFound⟩, hFiles⟩
    rcases ih hRest hFiles with ⟨others', hRest', hSame⟩
    refine ⟨⟨symbolPrefix, name, path, size, symbol, ident⟩ :: others',
      ?_, ?_⟩
    · refine returns_resolveAll_cons_iff.mpr ⟨_, _, s', ?_, hRest', rfl⟩
      exact returns_resolve_store_iff.mpr
        ⟨rfl, path, size, fileName, symbol, ident, hFound, hName, hSymbol,
          hIdent, rfl⟩
    · rw [List.map_cons, List.map_cons, hSame]
      rfl

theorem eq_of_unfiled_eq
    {r' : Resource}
    (hNames : r'.unfiled = r.unfiled)
    (hPath : r'.path = r.path)
    (hSize : r'.size = r.size) :
    r' = r := by
  cases r
  cases r'
  simp_all [unfiled]

theorem map_eq_of_unfiled_eq
    {rs' : List Resource}
    (hNames : rs'.map unfiled = rs.map unfiled)
    (hFiles : rs'.map (fun r => (r.path, r.size)) =
      rs.map fun r => (r.path, r.size)) :
    rs' = rs := by
  induction rs generalizing rs' with
  | nil => exact List.map_eq_nil_iff.mp hNames
  | cons r rest ih =>
    cases rs' with
    | nil => cases hNames
    | cons r' rest' =>
      rw [List.map_cons, List.map_cons, List.cons.injEq] at hNames hFiles
      rw [Prod.mk.injEq] at hFiles
      rw [eq_of_unfiled_eq hNames.1 hFiles.1.1 hFiles.1.2,
        ih hNames.2 hFiles.2]

end Resource

end ResourcePack

------------------------------------------------------------
-- Bundles of the Second Run
------------------------------------------------------------

namespace ResourcePack

namespace Bundle

open Resource (unfiled)

/- Conflicts do not depend on files. -/
theorem conflictFree_unfiled_iff
    {policy : Policy}
    {rs : List Resource} :
    ConflictFree policy (rs.map unfiled) ↔ ConflictFree policy rs := by
  have hSymbols : (rs.map unfiled).map Resource.symbol =
      rs.map Resource.symbol := by
    rw [List.map_map]
    rfl
  constructor
  · intro hFree
    constructor
    · exact fun r hMem =>
        hFree.directories r.unfiled (List.mem_map_of_mem hMem)
    · rw [← hSymbols]
      exact hFree.symbols
    · exact List.pairwise_map.mp hFree.apart
    · exact fun r hMem =>
        hFree.unreserved r.unfiled (List.mem_map_of_mem hMem)
  · intro hFree
    constructor
    · exact List.forall_mem_map.mpr hFree.directories
    · rw [hSymbols]
      exact hFree.symbols
    · exact List.pairwise_map.mpr hFree.apart
    · exact List.forall_mem_map.mpr hFree.unreserved

/- A list makes a bundle if it does with other files. -/
theorem exists_ofResources_of_unfiled_eq
    {policy : Policy}
    {rs rs' : List Resource}
    {b : Bundle}
    (hBundle : ofResources rs policy = .ok b)
    (hSame : rs'.map unfiled = rs.map unfiled) :
    ∃ b', ofResources rs' policy = .ok b' := by
  apply accepts_iff.mpr
  rw [← conflictFree_unfiled_iff, hSame, conflictFree_unfiled_iff]
  exact accepts_iff.mp ⟨b, hBundle⟩

end Bundle

namespace Assembly

/- The assembly file does not depend on the files of its resources. -/
theorem render_unfiled
    (rs : List Resource)
    (align : Nat) :
    render (rs.map Resource.unfiled) align = render rs align := by
  unfold render lines
  rw [List.flatMap_map]
  rfl

theorem render_ne_empty
    (rs : List Resource)
    (align : Nat) :
    render rs align ≠ "" := by
  intro hEmpty
  have hLength := congrArg String.length hEmpty
  simp [render, lines, Text.unlines] at hLength

end Assembly

theorem Header.render_ne_empty
    (b : Bundle)
    (o : HeaderOptions) :
    render b o ≠ "" := by
  intro hEmpty
  have hLength := congrArg String.length hEmpty
  simp [render, lines, Text.unlines] at hLength

end ResourcePack

------------------------------------------------------------
-- The Second Run
------------------------------------------------------------

namespace ResourcePack

namespace Generation

variable {request : Request} {c : Config} {s s' : Store}
variable {r : Report}

/-
  A run returns its report when it is ready and the store takes its
  two files.
-/
theorem returns_generate_iff_ready :
    Returns (generate request c) s r s' ↔
      ∃ o b s₁, Ready request c s o b ∧
        s.write request.asm (Assembly.render b.resources c.align) =
          (.ok (), s₁) ∧
        s₁.write request.header (Header.render b o) = (.ok (), s') ∧
        r = report request b := by
  rw [returns_generate_iff, returns_run_iff]
  constructor
  · rintro ⟨o, b, s₁, s₂, s₃, hConfig, hOptions, hBundle, hAsm, hHeader,
      hNote, hReport⟩
    have hKept := (keeps_bundle _ _).eq_of_returns hBundle
    have hNoted := (keeps_note _).eq_of_returns hNote
    subst hKept hNoted
    exact ⟨o, b, s₂, ready_iff.mpr ⟨hConfig, hOptions, hBundle⟩,
      returns_write_store_iff.mp hAsm, returns_write_store_iff.mp hHeader, hReport⟩
  · rintro ⟨o, b, s₁, hReady, hAsm, hHeader, hReport⟩
    rcases ready_iff.mp hReady with ⟨hConfig, hOptions, hBundle⟩
    exact ⟨o, b, s, s₁, s', hConfig, hOptions, hBundle,
      returns_write_store_iff.mpr hAsm, returns_write_store_iff.mpr hHeader,
      returns_lift_iff.mpr rfl, hReport⟩

/-
  A run that is ready is ready in any other store in which each of
  its names has a file.
-/
theorem Ready.again
    {o : HeaderOptions}
    {b : Bundle}
    (hReady : Ready request c s o b)
    (hFiles : ∀ name ∈ request.resources,
      ∃ found, s'.described? name c.search = some found) :
    ∃ b', Ready request c s' o b' ∧
      b'.resources.map Resource.unfiled =
        b.resources.map Resource.unfiled := by
  rcases Resource.returns_resolveAll_again hReady.resolved hFiles with
    ⟨rs', hResolve, hSame⟩
  rcases Bundle.exists_ofResources_of_unfiled_eq hReady.inserted hSame with
    ⟨b', hInsert⟩
  have hResources := Bundle.resources_ofResources hInsert
  subst hResources
  exact ⟨b', ⟨hReady.valid, hReady.options, hResolve, hInsert⟩, hSame⟩

/-
  Two bundles of one request are the same, and so are the reports,
  exactly if every name has the same file.
-/
theorem report_eq_iff
    {o : HeaderOptions}
    {b b' : Bundle}
    (hReady : Ready request c s o b)
    (hReady' : Ready request c s' o b')
    (hSame : b'.resources.map Resource.unfiled =
      b.resources.map Resource.unfiled) :
    (report request b' = report request b ↔
      ∀ name ∈ request.resources,
        s'.described? name c.search = s.described? name c.search) ∧
      (report request b' = report request b → b' = b) := by
  have hFiles := Resource.files_of_resolveAll hReady.resolved
  have hFiles' := Resource.files_of_resolveAll hReady'.resolved
  have hEq : report request b' = report request b →
      b'.resources.map (fun r => (r.path, r.size)) =
        b.resources.map fun r => (r.path, r.size) := by
    intro hReport
    have hEntries := congrArg
      (fun r => r.resources.map fun e => (e.path, e.size)) hReport
    simpa only [report, List.map_map, Function.comp_def] using hEntries
  have hBundle : b'.resources.map (fun r => (r.path, r.size)) =
      b.resources.map (fun r => (r.path, r.size)) → b' = b := by
    intro hPairs
    have hResources := Resource.map_eq_of_unfiled_eq hSame hPairs
    have hInserted := hReady'.inserted
    rw [hResources, hReady.inserted, Except.ok.injEq] at hInserted
    exact hInserted.symm
  refine ⟨⟨?_, ?_⟩, fun hReport => hBundle (hEq hReport)⟩
  · intro hReport
    have hPairs := congrArg (List.map some) (hEq hReport)
    rw [List.map_map, List.map_map] at hPairs
    exact List.map_inj_left.mp (hFiles'.symm.trans (hPairs.trans hFiles))
  · intro hNames
    have hPairs := hFiles'.trans
      ((List.map_congr_left hNames).trans hFiles.symm)
    rw [hBundle]
    apply (List.map_inj_right fun _ _ hEq => Option.some.inj hEq).mp
    rw [List.map_map, List.map_map]
    exact hPairs

/- A run that returns has written both its files to where they lead. -/
theorem wrote_of_generate
    (hRooted : s.Rooted)
    (hReturns : Returns (generate request c) s r s') :
    ∃ o b s₁ asmAt headerAt, Ready request c s o b ∧
      Store.Wrote s request.asm (Assembly.render b.resources c.align)
        asmAt s₁ ∧
      Store.Wrote s₁ request.header (Header.render b o) headerAt s' ∧
      r = report request b := by
  rcases returns_generate_iff_ready.mp hReturns with
    ⟨o, b, s₁, hReady, hAsm, hHeader, hReport⟩
  rcases Store.wrote_of_write hRooted hAsm with ⟨asmAt, hAsm⟩
  rcases Store.wrote_of_write (hAsm.rooted hRooted) hHeader with
    ⟨headerAt, hHeader⟩
  exact ⟨o, b, s₁, asmAt, headerAt, hReady, hAsm, hHeader, hReport⟩

/-
  After two texts were written, both are written again.  Nothing
  changes but what is at the end of the second path, and nothing at
  all if the second text is the same again.
-/
theorem exists_written_again
    {s₁ : Store}
    {asm header asmText headerText : String}
    {asmAt headerAt : Location}
    (hRooted : s.Rooted)
    (hAsm : Store.Wrote s asm asmText asmAt s₁)
    (hHeader : Store.Wrote s₁ header headerText headerAt s')
    (hAsmText : asmText ≠ "")
    (hHeaderText : headerText ≠ "")
    (headerText' : String) :
    ∃ s₂ s'', s'.write asm asmText = (.ok (), s₂) ∧
      s₂.write header headerText' = (.ok (), s'') ∧
      (∀ purpose path l,
        s''.locate purpose path = .ok l ↔ s'.locate purpose path = .ok l) ∧
      (∀ l, l ≠ headerAt → s''.get? l = s'.get? l) ∧
      (headerText' = headerText → ∀ l, s''.get? l = s'.get? l) := by
  have hRooted₁ := hAsm.rooted hRooted
  have hRooted' := hHeader.rooted hRooted₁
  have hTakesAsm : s'.Takes asm asmAt :=
    ((hAsm.takes hAsmText).after hRooted hAsm).after hRooted₁ hHeader
  rcases hTakesAsm.exists_wrote hRooted' asmText with ⟨s₂, hWrite₂, hAsm₂⟩
  have hRooted₂ := hAsm₂.rooted hRooted'
  have hTakesHeader : s₂.Takes header headerAt :=
    ((hHeader.takes hHeaderText).after hRooted₁ hHeader).after hRooted' hAsm₂
  rcases hTakesHeader.exists_wrote hRooted₂ headerText' with
    ⟨s'', hWrite, hHeader₂⟩
  have hOthers : ∀ l, l ≠ headerAt → s''.get? l = s'.get? l := by
    intro l hNe
    rw [hHeader₂.get?_of_ne hNe]
    by_cases hSame : l = asmAt
    · subst hSame
      apply hAsm₂.get?_of_holds
      intro hNone
      -- the first header has left the assembly file as it was
      rw [hHeader.get?_of_ne hNe]
      apply hAsm.get?_self
      intro d hDevice
      exact hNone d (hHeader.get?_eq_device_iff.mpr
        (hAsm.get?_eq_device_iff.mpr hDevice))
    · exact hAsm₂.get?_of_ne hSame
  refine ⟨s₂, s'', hWrite₂, hWrite, ?_, hOthers, ?_⟩
  · intro purpose path l
    rw [hHeader₂.locate_iff hRooted₂, hAsm₂.locate_iff hRooted']
  · rintro rfl l
    by_cases hSame : l = headerAt
    · subst hSame
      by_cases hDevice : ∃ d, s'.get? l = some (.device d)
      · rcases hDevice with ⟨d, hDevice⟩
        rw [hHeader₂.get?_eq_device_iff.mpr
          (hAsm₂.get?_eq_device_iff.mpr hDevice), hDevice]
      · have hNone := fun d hThere => hDevice ⟨d, hThere⟩
        rw [hHeader₂.get?_self (hAsm₂.not_device hNone), hHeader.get?_self]
        intro d hThere
        exact hNone d (hHeader.get?_eq_device_iff.mpr hThere)
    · exact hOthers l hSame

/-
  A run that has succeeded succeeds again on the store that it has
  left.  At most its header is then another.  Its report is the same
  exactly if every name has its old file with its old size, and then
  every path leads to what it led to.  This is so whenever neither
  output lies at the end of a path that is looked at for a name.  The
  logs of both runs do not go to a file in the store.
-/
theorem generate_again
    (hRooted : s.Rooted)
    (hReturns : Returns (generate request c) s r s') :
    ∃ r' s'', Returns (generate request c) s' r' s'' ∧
      (∀ path l e, s.locate .creating request.header ≠ .ok l →
        (s''.find path = .ok (l, e) ↔ s'.find path = .ok (l, e))) ∧
      (r' = r ↔ ∀ name ∈ request.resources,
        s'.described? name c.search = s.described? name c.search) ∧
      (r' = r → ∀ path l e,
        s''.find path = .ok (l, e) ↔ s'.find path = .ok (l, e)) ∧
      ((∀ name ∈ request.resources, ∀ path ∈ s.tried name c.search, ∀ l,
        s.locate .existing path = .ok l →
          s.locate .creating request.asm ≠ .ok l ∧
            s.locate .creating request.header ≠ .ok l) → r' = r) := by
  rcases wrote_of_generate hRooted hReturns with
    ⟨o, b, s₁, asmAt, headerAt, hReady, hAsm, hHeader, rfl⟩
  have hRooted₁ := hAsm.rooted hRooted
  have hHeaderAt : s.locate .creating request.header = .ok headerAt :=
    (hAsm.locate_iff hRooted).mp hHeader.located
  have hFiles : ∀ name ∈ request.resources,
      ∃ found, s'.described? name c.search = some found := by
    intro name hMem
    have hFound := Resource.files_of_resolveAll hReady.resolved
    rcases List.mem_map.mp (hFound ▸ List.mem_map_of_mem hMem) with
      ⟨r, -, hSome⟩
    exact hHeader.exists_described? hRooted₁
      (hAsm.exists_described? hRooted ⟨_, hSome.symm⟩)
  rcases hReady.again hFiles with ⟨b', hReady', hSame⟩
  rcases report_eq_iff hReady hReady' hSame with ⟨hReport, hBundle⟩
  have hText : Assembly.render b'.resources c.align =
      Assembly.render b.resources c.align := by
    rw [← Assembly.render_unfiled, hSame, Assembly.render_unfiled]
  rcases exists_written_again hRooted hAsm hHeader
      (Assembly.render_ne_empty _ _) (Header.render_ne_empty _ _)
      (Header.render b' o) with
    ⟨s₂, s'', hWrite₂, hWrite, hLocate, hOthers, hAll⟩
  refine ⟨report request b', s'', ?_, ?_, hReport, ?_, ?_⟩
  · exact returns_generate_iff_ready.mpr
      ⟨o, b', s₂, hReady', hText ▸ hWrite₂, hWrite, rfl⟩
  · intro path l e hNe
    have hNotHeader : l ≠ headerAt := by
      rintro rfl
      exact hNe hHeaderAt
    rw [Store.find_eq_ok_iff, Store.find_eq_ok_iff, hLocate,
      hOthers l hNotHeader]
  · intro hEq path l e
    rw [Store.find_eq_ok_iff, Store.find_eq_ok_iff, hLocate,
      hAll (by rw [hBundle hEq])]
  · intro hApart
    refine hReport.mpr ?_
    intro name hMem
    apply Store.described?_of_apart hRooted hAsm hHeader
    intro path hTried l hLocated
    rcases hApart name hMem path hTried l hLocated with
      ⟨hNotAsm, hNotHeader⟩
    constructor
    · rintro rfl
      exact hNotAsm hAsm.located
    · rintro rfl
      exact hNotHeader hHeaderAt

/- The run on one file is repeated: no output lies where it looks. -/
theorem generate_again_sample :
    sampleStore.Rooted ∧
      ∃ (r : Report) (s' s'' : Store),
        Returns (generate sampleRequest sampleConfig) sampleStore r s' ∧
          Returns (generate sampleRequest sampleConfig) s' r s'' ∧
          ∀ path l e,
            s''.find path = .ok (l, e) ↔ s'.find path = .ok (l, e) := by
  have hRooted : sampleStore.Rooted :=
    Store.rooted_after "w" [.save "a.bin" sampleBytes]
  have hRun : ∃ (r : Report) (s' : Store),
      Returns (generate sampleRequest sampleConfig) sampleStore r s' ∧
        r.resources.length = 1 := by
    apply exists_returns
    decide +kernel
  have hTried : sampleStore.tried "a.bin" ["."] = ["./a.bin"] := by
    decide +kernel
  have hLed : sampleStore.locate .existing "./a.bin" =
      .ok ["w", "a.bin"] := by
    decide +kernel
  have hApart : ∀ name ∈ sampleRequest.resources,
      ∀ path ∈ sampleStore.tried name sampleConfig.search, ∀ l,
        sampleStore.locate .existing path = .ok l →
          sampleStore.locate .creating sampleRequest.asm ≠ .ok l ∧
            sampleStore.locate .creating sampleRequest.header ≠ .ok l := by
    intro name hName path hPath l hLocated
    rw [List.mem_singleton.mp hName] at hPath
    have hPath' : path ∈ ["./a.bin"] := hTried ▸ hPath
    rw [List.mem_singleton.mp hPath', hLed] at hLocated
    cases hLocated
    constructor <;> decide +kernel
  rcases hRun with ⟨r, s', hReturns, -⟩
  rcases generate_again hRooted hReturns with
    ⟨r', s'', hAgain, -, -, hFound, hSame⟩
  have hEq := hSame hApart
  rw [hEq] at hAgain
  exact ⟨hRooted, r, s', s'', hReturns, hAgain, hFound hEq⟩

theorem exists_returns_twice
    {σ α : Type}
    {x : ExceptT Error (StateM σ) α}
    {s : σ}
    {p : α → σ → α → σ → Prop}
    [∀ a s' a' s'', Decidable (p a s' a' s'')]
    (hRun : (match x.run.run s with
      | (.ok a, s') =>
        match x.run.run s' with
        | (.ok a', s'') => decide (p a s' a' s'')
        | (.error _, _) => false
      | (.error _, _) => false) = true) :
    ∃ a s', Returns x s a s' ∧
      ∃ a' s'', Returns x s' a' s'' ∧ p a s' a' s'' := by
  unfold Returns
  rcases hFirst : x.run.run s with ⟨e | a, s'⟩ <;> rw [hFirst] at hRun
  · cases hRun
  refine ⟨a, s', rfl, ?_⟩
  rcases hSecond : x.run.run s' with ⟨e | a', s''⟩ <;>
    simp only [hSecond] at hRun
  · cases hRun
  · exact ⟨a', s'', rfl, of_decide_eq_true hRun⟩

/- A store in which the header of a run goes before a resource. -/
def shadowingStore : Store :=
  (Store.initial ["w"]).after [.makeDirectories "d", .write "d/o.h" "xyz"]

/-
  With the path of a resource for the header the second run reports
  another size and writes another header.  So it does if the header
  of the first has the name of a resource in a later directory.
-/
theorem not_repeated :
    (∃ (r : Report) (s' : Store),
      Returns (generate ⟨["a.bin"], "o.s", "a.bin"⟩ sampleConfig)
        sampleStore r s' ∧
      ∃ (r' : Report) (s'' : Store),
        Returns (generate ⟨["a.bin"], "o.s", "a.bin"⟩ sampleConfig)
          s' r' s'' ∧
        r' ≠ r ∧ s''.read "a.bin" ≠ s'.read "a.bin") ∧
      ∃ (r : Report) (s' : Store),
        Returns (generate ⟨["o.h"], "o.s", "o.h"⟩
          { sampleConfig with search := [".", "d"] }) shadowingStore r s' ∧
        ∃ (r' : Report) (s'' : Store),
          Returns (generate ⟨["o.h"], "o.s", "o.h"⟩
            { sampleConfig with search := [".", "d"] }) s' r' s'' ∧
          r' ≠ r ∧ s''.read "o.h" ≠ s'.read "o.h" := by
  constructor
  · apply exists_returns_twice
    decide +kernel
  · apply exists_returns_twice
    decide +kernel

end Generation

end ResourcePack
