import ResourcePack.Proofs.Assembly.Symbols
import ResourcePack.Proofs.Generation.Run
import ResourcePack.Proofs.Header.Symbols

/-
  The two files and the report name the same symbols.

  Key definitions include:
    * `ResourcePack.Generation.SameSymbols`

  Main declarations:
    * `ResourcePack.Generation.sameSymbols_render`
    * `ResourcePack.Generation.symbols_agree`

  Whatever the names of the resources are, the symbols that are
  read from the assembly file and from the header are those of the
  resources, in their order, and the objects of the header refer to
  each of them once.
-/

------------------------------------------------------------
-- Agreement
------------------------------------------------------------

namespace ResourcePack

namespace Generation

/-
  An assembly file and a header name one list of symbols, without
  repetition: the global ones, the labels and those that the header
  declares.  Each is the first argument on one `constexpr` line,
  and no such line has another first argument.
-/
structure SameSymbols
    (symbols : List String)
    (asm header : String) : Prop where
  globals : Assembly.globals asm = symbols
  labels : Assembly.labels asm = symbols
  externals : Header.externals header = symbols
  nodup : symbols.Nodup
  referenced : ∀ symbol ∈ symbols,
    (Header.arguments header).count (some (Header.reference symbol)) = 1
  only_referenced : ∀ argument ∈ Header.arguments header,
    ∃ symbol ∈ symbols, argument = some (Header.reference symbol)

/- Different symbols are referred to differently. -/
theorem reference_injective :
    Function.Injective fun symbol => some (Header.reference symbol) := by
  intro symbol other hEq
  have hReference : Header.reference symbol = Header.reference other :=
    Option.some.inj hEq
  have hText := congrArg String.toList hReference
  unfold Header.reference at hText
  simp only [String.toList_append, List.append_cancel_left_eq] at hText
  exact String.toList_inj.mp hText

theorem sameSymbols_render
    {rs : List Resource}
    {policy : Policy}
    {b : Bundle}
    {o : HeaderOptions}
    (hValid : o.validate = .ok ())
    (hSanitized : ∀ r ∈ rs, r.Sanitized)
    (hBundle : Bundle.ofResources rs policy = .ok b)
    (align : Nat) :
    SameSymbols (rs.map Resource.symbol)
      (Assembly.render b.resources align) (Header.render b o) := by
  have hResources := Bundle.resources_ofResources hBundle
  have hNamed := Bundle.named_ofResources hSanitized hBundle
  have hClean := HeaderOptions.clean_of_validate hValid
  have hHolds := (Bundle.holds_ofResources hBundle).2
  have hNodup : (rs.map Resource.symbol).Nodup := by
    rw [← hResources, hHolds.resources, List.map_map]
    exact hHolds.separate.distinct
  have hPerm := Header.arguments_render_perm hClean hNamed hHolds
  rw [hResources] at hPerm
  constructor
  · rw [Assembly.globals_render hNamed.symbols, hResources]
  · rw [Assembly.labels_render hNamed.symbols, hResources]
  · rw [Header.externals_render hClean hNamed, hResources]
  · exact hNodup
  · intro symbol hMem
    rw [hPerm.count_eq]
    exact List.count_eq_one_of_mem (hNodup.map reference_injective)
      (List.mem_map_of_mem hMem)
  · intro argument hMem
    rcases List.mem_map.mp (hPerm.mem_iff.mp hMem) with
      ⟨symbol, hSymbol, hArgument⟩
    exact ⟨symbol, hSymbol, hArgument.symm⟩

/-
  The files of every bundle of sanitized resources name the symbols
  of these resources in their order, and a report that is returned
  lists the symbols that are named in the files of its run.
-/
theorem symbols_agree :
    (∀ (rs : List Resource) (policy : Policy) (b : Bundle)
        (o : HeaderOptions) (align : Nat),
      o.validate = .ok () →
        (∀ r ∈ rs, r.Sanitized) →
          Bundle.ofResources rs policy = .ok b →
            SameSymbols (rs.map Resource.symbol)
              (Assembly.render b.resources align)
              (Header.render b o)) ∧
      ∀ (σ : Type) [Workspace (StateM σ)] [Journal (StateM σ)]
          (request : Request) (c : Config) (s s' : σ) (r : Report),
        Returns (generate request c) s r s' →
          ∃ o b, Made request c s s' r o b ∧
            SameSymbols (r.resources.map ReportEntry.symbol)
              (Assembly.render b.resources c.align)
              (Header.render b o) := by
  constructor
  · intro rs policy b o align hValid hSanitized hBundle
    exact sameSymbols_render hValid hSanitized hBundle align
  · intro σ _ _ request c s s' r hReturns
    rcases made_of_generate hReturns with ⟨o, b, hMade⟩
    have hSame := sameSymbols_render hMade.valid hMade.sanitized
      hMade.inserted c.align
    have hReport : r.resources.map ReportEntry.symbol =
        b.resources.map Resource.symbol := by
      rw [hMade.reported, report, List.map_map]
      rfl
    rw [← hReport] at hSame
    exact ⟨o, b, hMade, hSame⟩

/- A resource whose name is made to look like lines of assembly. -/
def hostile : Resource :=
  ⟨"r_", "\"\n    .global x\nx:", "/data/q", 1, "r_q", "q"⟩

/- Bytes that are no text. -/
def sampleBytes : ByteArray :=
  ⟨#[0x89, 0x50, 0x4e]⟩

/- A store that holds one file. -/
def sampleStore : Store :=
  ((Store.initial ["w"]).save "a.bin" sampleBytes).2

/- What a run on that file needs to be told. -/
def sampleConfig : Config :=
  { resourceClass := some "R", search := ["."] }

/- A run on that file. -/
def sampleRequest : Request :=
  ⟨["a.bin"], "o.s", "o.h"⟩

/- The hostile name adds no symbol, and the run reports its one. -/
theorem symbols_agree_sample :
    (∃ b, Bundle.ofResources [hostile] .reject = .ok b ∧
      SameSymbols ["r_q"] (Assembly.render b.resources 4)
        (Header.render b Header.sampleOptions)) ∧
      ∃ (r : Report) (s' : Store) (o : HeaderOptions) (b : Bundle),
        Returns (generate sampleRequest sampleConfig) sampleStore r s' ∧
          Made sampleRequest sampleConfig sampleStore s' r o b ∧
          SameSymbols ["a_bin"] (Assembly.render b.resources 4)
            (Header.render b o) := by
  have hSanitized : ∀ r ∈ [hostile], r.Sanitized := by
    rw [List.forall_mem_singleton]
    exact ⟨⟨.reject, "r_q", rfl⟩, ⟨.reject, "q", rfl⟩⟩
  have hBundle : ∃ b, Bundle.ofResources [hostile] .reject = .ok b :=
    ⟨_, rfl⟩
  have hRun : ∃ (r : Report) (s' : Store),
      Returns (generate sampleRequest sampleConfig) sampleStore r s' ∧
        r.resources.map ReportEntry.symbol = ["a_bin"] := by
    apply exists_returns
    decide +kernel
  rcases hBundle with ⟨b, hBundle⟩
  rcases hRun with ⟨r, s', hReturns, hSymbols⟩
  constructor
  · exact ⟨b, hBundle, symbols_agree.1 [hostile] .reject b
      Header.sampleOptions 4 rfl hSanitized hBundle⟩
  · rcases symbols_agree.2 Store sampleRequest sampleConfig sampleStore
      s' r hReturns with ⟨o, b', hMade, hSame⟩
    rw [hSymbols] at hSame
    exact ⟨r, s', o, b', hReturns, hMade, hSame⟩

end Generation

end ResourcePack
