import ResourcePack.Proofs.Generation.Files
import ResourcePack.Proofs.Generation.Symbols
import ResourcePack.Proofs.Store.Changes

/-
  What a run leaves in a store.

  Key definitions include:
    * `ResourcePack.Generation.Leaves`

  Main declarations:
    * `ResourcePack.Header.sizes_render`
    * `ResourcePack.Generation.leaves_of_generate`

  A run that succeeds leaves its two files and changes nothing
  else.  The header is written last, so that it is what a file holds
  that both paths lead to.  The sizes that the run has written are
  those of the files that its resources were resolved to, and these
  are still the same, unless one of them was written over.
-/

------------------------------------------------------------
-- Sizes
------------------------------------------------------------

namespace ResourcePack

namespace Header

/- The symbols that a header makes objects with, and their sizes. -/
def sizes
    (header : String) : List (String × Nat) :=
  match read header with
  | some reading =>
    (reading.items.filterMap Item.entry?).map fun e => (e.symbol, e.size)
  | none => []

theorem sizes_render
    {o : HeaderOptions}
    {b : Bundle}
    {xs : List Placed}
    (hClean : o.Clean)
    (hNamed : b.Named)
    (hHolds : b.Holds xs) :
    (sizes (render b o)).Perm
      (b.resources.map fun r => (r.symbol, r.size)) := by
  have hEntries := (entries_items o hHolds).map fun e => (e.symbol, e.size)
  rw [List.map_map] at hEntries
  simp only [sizes, read_render hClean hNamed]
  rw [allItems, List.filterMap_append, entry?_externalsBlock,
    List.nil_append, hHolds.resources, List.map_map]
  exact hEntries

end Header

end ResourcePack

------------------------------------------------------------
-- Outputs
------------------------------------------------------------

namespace ResourcePack

namespace Generation

/- A file of a run is written by one write to the store. -/
theorem write_of_returns
    {path text : String}
    {s s' : Store}
    (hReturns : Returns (write path text) s () s') :
    s.write path text = (.ok (), s') := by
  rcases returns_write_iff.mp hReturns with ⟨s₁, hWrite, hNote⟩
  cases hNote
  exact hWrite

/-
  A run from one store has left another.

  The options and the bundle are those of the first store.  The
  header is in its file and the assembly file as well, if that is
  not the same, except that a device keeps nothing.  Nothing is
  different at any other location, and every path leads to where it
  led.  The sizes in the report and in the header are those of the
  files that the resources stand for, and a file that is not at the
  end of one of the two paths is still there as it was.
-/
structure Leaves
    (request : Request)
    (c : Config)
    (s s' : Store)
    (result : Report)
    (o : HeaderOptions)
    (b : Bundle)
    (asmAt headerAt : Location) : Prop where
  options : c.headerOptions = .ok o
  bundle : Returns (bundle request.resources c) s b s
  asm_at : s.locate .creating request.asm = .ok asmAt
  header_at : s.locate .creating request.header = .ok headerAt
  header : (∀ d, s.get? headerAt ≠ some (.device d)) →
    s'.read request.header = .ok (Header.render b o)
  asm : asmAt ≠ headerAt → (∀ d, s.get? asmAt ≠ some (.device d)) →
    s'.read request.asm = .ok (Assembly.render b.resources c.align)
  device : ∀ l d, s.get? l = some (.device d) → s'.get? l = s.get? l
  others : ∀ l, l ≠ asmAt → l ≠ headerAt → s'.get? l = s.get? l
  paths : ∀ purpose path l,
    s'.locate purpose path = .ok l ↔ s.locate purpose path = .ok l
  reported : result = report request b
  names : b.resources.map Resource.name = request.resources
  sizes : (Header.sizes (Header.render b o)).Perm
    (b.resources.map fun r => (r.symbol, r.size))
  files : ∀ r ∈ b.resources, ∃ l contents,
    r.StandsFor s c.search l contents ∧
      (l ≠ asmAt → l ≠ headerAt → s'.get? l = some (.file contents))

/-
  A run that succeeds leaves what it has to.  Nothing else is written
  to the store, as its log does not go to a file there.
-/
theorem leaves_of_generate
    {request : Request}
    {c : Config}
    {s s' : Store}
    {result : Report}
    (hRooted : s.Rooted)
    (hReturns : Returns (generate request c) s result s') :
    ∃ o b asmAt headerAt,
      Leaves request c s s' result o b asmAt headerAt := by
  rcases returns_run_iff.mp (returns_generate_iff.mp hReturns) with
    ⟨o, b, s₁, s₂, s₃, hConfig, hOptions, hBundle, hAsm, hHeader, hNote,
      hReport⟩
  have hKept := (keeps_bundle _ _).eq_of_returns hBundle
  have hNoted := (keeps_note _).eq_of_returns hNote
  subst hKept hNoted
  rcases ofResources_of_bundle hBundle with ⟨-, hSanitized, hInserted⟩
  rcases standsFor_of_bundle hBundle with ⟨hNames, hStands⟩
  rcases Store.wrote_of_write hRooted (write_of_returns hAsm) with
    ⟨asmAt, hFirst⟩
  have hStill := hFirst.rooted hRooted
  rcases Store.wrote_of_write hStill (write_of_returns hHeader) with
    ⟨headerAt, hSecond⟩
  have hOthers : ∀ l, l ≠ asmAt → l ≠ headerAt → s'.get? l = s₁.get? l := by
    intro l hNotAsm hNotHeader
    rw [hSecond.get?_of_ne hNotHeader, hFirst.get?_of_ne hNotAsm]
  exact ⟨o, b, asmAt, headerAt,
    { options := hOptions
      bundle := hBundle
      asm_at := hFirst.located
      header_at := (hFirst.locate_iff hRooted).mp hSecond.located
      header := by
        intro hNone
        exact Store.read_of_find
          (hSecond.find_self hStill (hFirst.not_device hNone))
      asm := by
        intro hNe hNone
        exact Store.read_of_find
          (hSecond.find_of_ne hStill hNe (hFirst.find_self hRooted hNone))
      device := by
        intro l d hDevice
        have hBetween := hFirst.get?_of_device hDevice
        rw [hSecond.get?_of_device (hBetween.trans hDevice), hBetween]
      others := hOthers
      paths := by
        intro purpose path l
        rw [hSecond.locate_iff hStill, hFirst.locate_iff hRooted]
      reported := hReport
      names := hNames
      sizes := Header.sizes_render
        (HeaderOptions.clean_of_validate (validate_options hConfig hOptions))
        (Bundle.named_ofResources hSanitized hInserted)
        (Bundle.holds_ofResources hInserted).2
      files := by
        intro r hMem
        rcases hStands r hMem with ⟨l, contents, hFile⟩
        rcases hFile.found with ⟨path, -, hFind⟩
        refine ⟨l, contents, hFile, ?_⟩
        intro hNotAsm hNotHeader
        rw [hOthers l hNotAsm hNotHeader]
        exact (Store.find_eq_ok_iff.mp hFind).2 }⟩

theorem leaves_sample :
    sampleStore.Rooted ∧
      ∃ (r : Report) (s' : Store) (o : HeaderOptions) (b : Bundle)
          (asmAt headerAt : Location),
        Returns (generate sampleRequest sampleConfig) sampleStore r s' ∧
          Leaves sampleRequest sampleConfig sampleStore s' r o b
            asmAt headerAt := by
  have hRooted : sampleStore.Rooted :=
    Store.rooted_after "w" [.save "a.bin" sampleBytes]
  have hRun : ∃ (r : Report) (s' : Store),
      Returns (generate sampleRequest sampleConfig) sampleStore r s' ∧
        r.resources.length = 1 := by
    apply exists_returns
    decide +kernel
  rcases hRun with ⟨r, s', hReturns, -⟩
  rcases leaves_of_generate hRooted hReturns with
    ⟨o, b, asmAt, headerAt, hLeaves⟩
  exact ⟨hRooted, r, s', o, b, asmAt, headerAt, hReturns, hLeaves⟩

/-
  With one path for both files the assembly file is lost, and with
  the path of a resource for the header its contents are lost and
  the size that is reported of it is wrong.
-/
theorem written_over :
    (∃ (b : Bundle) (r : Report) (s' : Store),
      Returns (bundle ["a.bin"] sampleConfig) sampleStore b sampleStore ∧
      Returns (generate ⟨["a.bin"], "o", "o"⟩ sampleConfig)
        sampleStore r s' ∧
      s'.read "o" ≠
        .ok (Assembly.render b.resources sampleConfig.align)) ∧
      ∃ (r : Report) (s' : Store),
        Returns (generate ⟨["a.bin"], "o.s", "a.bin"⟩ sampleConfig)
          sampleStore r s' ∧
        r.resources.map (fun e => (e.name, e.size, e.path)) =
          [("a.bin", 3, "/w/a.bin")] ∧
        sampleStore.size "/w/a.bin" = .ok 3 ∧
        s'.size "/w/a.bin" ≠ .ok 3 := by
  have hBundle : ∃ (b : Bundle) (s' : Store),
      Returns (bundle ["a.bin"] sampleConfig) sampleStore b s' ∧
        s' = sampleStore ∧
        b.resources = [⟨"", "a.bin", "/w/a.bin", 3, "a_bin", "a_bin"⟩] := by
    apply exists_returns_and
    decide +kernel
  rcases hBundle with ⟨b, _, hBundle, rfl, hResources⟩
  have hShared : ∃ (r : Report) (s' : Store),
      Returns (generate ⟨["a.bin"], "o", "o"⟩ sampleConfig)
        sampleStore r s' ∧
        s'.read "o" ≠ .ok (Assembly.render
          [⟨"", "a.bin", "/w/a.bin", 3, "a_bin", "a_bin"⟩]
          sampleConfig.align) := by
    apply exists_returns_and
    decide +kernel
  rcases hShared with ⟨r, s', hReturns, hRead⟩
  rw [← hResources] at hRead
  refine ⟨⟨b, r, s', hBundle, hReturns, hRead⟩, ?_⟩
  apply exists_returns_and
  decide +kernel

end Generation

end ResourcePack
