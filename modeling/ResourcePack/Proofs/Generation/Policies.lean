import ResourcePack.Proofs.Bundle.Policies
import ResourcePack.Proofs.Generation.Symbols

/-
  A run under `escape` does all that it does under `reject`.

  Key definitions include:
    * `ResourcePack.Generation.escaping`

  Main declarations:
    * `ResourcePack.Generation.resolveAll_escape_of_reject`
    * `ResourcePack.Generation.insertAll_escape_of_reject`
    * `ResourcePack.Generation.run_escape_of_reject`
    * `ResourcePack.Generation.escape_extends_reject`

  Step by step a run that succeeds under `reject` is followed under
  `escape`, through the same states and with the same results.
  Nothing is assumed of the files that it works on.
-/

------------------------------------------------------------
-- Resources
------------------------------------------------------------

namespace ResourcePack

namespace Generation

open Identifier

variable {σ : Type} [Workspace (StateM σ)]

theorem describe_escape_of_reject
    {symbolPrefix name path : String}
    {s s' : σ}
    {r : Resource}
    (hReturns : Returns
      (Resource.describe symbolPrefix name path .reject) s r s') :
    Returns (Resource.describe symbolPrefix name path .escape) s r s' := by
  rcases returns_describe_iff.mp hReturns with
    ⟨size, fileName, symbol, ident, canonical, s₁, hSize, hName, hSymbol,
      hIdent, hCanonical, hResource⟩
  exact returns_describe_iff.mpr
    ⟨size, fileName, symbol, ident, canonical, s₁, hSize, hName,
      sanitize_escape_of_reject hSymbol, sanitize_escape_of_reject hIdent,
      hCanonical, hResource⟩

variable [Journal (StateM σ)]

theorem resolveAll_escape_of_reject
    {symbolPrefix : String}
    {directories names : List String}
    {s s' : σ}
    {rs : List Resource}
    (hReturns : Returns
      (Resource.resolveAll symbolPrefix directories .reject names)
        s rs s') :
    Returns (Resource.resolveAll symbolPrefix directories .escape names)
      s rs s' := by
  induction names generalizing s s' rs with
  | nil => exact hReturns
  | cons name rest ih =>
    rcases returns_resolveAll_cons_iff.mp hReturns with
      ⟨r, others, s₁, hFirst, hRest, hList⟩
    rcases returns_resolve_iff.mp hFirst with
      ⟨path, s₂, hFind, hDescribe⟩
    have hEscape := returns_resolve_iff.mpr
      ⟨path, s₂, hFind, describe_escape_of_reject hDescribe⟩
    exact returns_resolveAll_cons_iff.mpr
      ⟨r, others, s₁, hEscape, ih hRest, hList⟩

end Generation

end ResourcePack

------------------------------------------------------------
-- Bundles and Runs
------------------------------------------------------------

namespace ResourcePack

namespace Generation

variable {σ : Type} [Journal (StateM σ)]

theorem insertAll_escape_of_reject
    {b b' : Bundle}
    {rs : List Resource}
    {s s' : σ}
    (hReturns : Returns (insertAll .reject b rs) s b' s') :
    Returns (insertAll .escape b rs) s b' s' := by
  induction rs generalizing b s with
  | nil => exact hReturns
  | cons r rest ih =>
    rcases returns_insertAll_cons_iff.mp hReturns with
      ⟨b₁, scope, s₁, hInsert, hScope, hNote, hRest⟩
    exact returns_insertAll_cons_iff.mpr
      ⟨b₁, scope, s₁, Bundle.insert_escape_of_reject hInsert,
        Bundle.scopeOf_escape_of_reject hScope, hNote, ih hRest⟩

variable [Workspace (StateM σ)]

/- A configuration with the policy `escape`. -/
def escaping
    (c : Config) : Config :=
  { c with policy := .escape }

theorem bundle_escape_of_reject
    {names : List String}
    {c : Config}
    (hReject : c.policy = .reject)
    {b : Bundle}
    {s s' : σ}
    (hReturns : Returns (bundle names c) s b s') :
    Returns (bundle names (escaping c)) s b s' := by
  rcases returns_bundle_iff.mp hReturns with
    ⟨rs, s₁, hResolve, hInsert⟩
  rw [hReject] at hResolve hInsert
  exact returns_bundle_iff.mpr ⟨rs, s₁,
    resolveAll_escape_of_reject hResolve,
    insertAll_escape_of_reject hInsert⟩

/-
  A run under `reject` that returns a report returns it under
  `escape` and leaves the same state.  Both runs make the same
  options and the same bundle, and so they write the same texts.
-/
theorem run_escape_of_reject
    {request : Request}
    {c : Config}
    (hReject : c.policy = .reject)
    {s s' : σ}
    {r : Report}
    (hReturns : Returns (run request c) s r s') :
    Returns (run request (escaping c)) s r s' ∧
      ∃ o b, Made request c s s' r o b ∧
        Made request (escaping c) s s' r o b := by
  rcases returns_run_iff.mp hReturns with ⟨o, b, s₁, s₂, s₃, hConfig,
    hOptions, hBundle, hAsm, hHeader, hNote, hReport⟩
  have hEscape := bundle_escape_of_reject hReject hBundle
  refine ⟨returns_run_iff.mpr ⟨o, b, s₁, s₂, s₃, hConfig, hOptions,
    hEscape, hAsm, hHeader, hNote, hReport⟩, o, b, ?_, ?_⟩
  · rw [hReport]
    exact made_of_steps hConfig hOptions hBundle hAsm hHeader hNote
  · rw [hReport]
    exact made_of_steps (c := escaping c) hConfig hOptions hEscape hAsm
      hHeader hNote

/-
  A call under `reject` that returns a report returns it under
  `escape`, with the same texts written to the same files and the
  same state left.  Under `escape` no insertion fails for want of an
  identifier.
-/
theorem escape_extends_reject :
    (∀ (σ : Type) [Workspace (StateM σ)] [Journal (StateM σ)]
        (request : Request) (c : Config) (s s' : σ) (r : Report),
      c.policy = .reject →
        Returns (generate request c) s r s' →
          Returns (generate request { c with policy := .escape }) s r s' ∧
            ∃ o b, Made request c s s' r o b ∧
              Made request { c with policy := .escape } s s' r o b) ∧
      ∀ (b : Bundle) (r : Resource) (name : String)
          (fault : IdentifierFault),
        b.insert r .escape ≠ .error (.invalidIdentifier name fault) := by
  refine ⟨?_, Bundle.insert_escape_ne_invalidIdentifier⟩
  intro σ _ _ request c s s' r hReject hReturns
  have hRun := returns_generate_iff.mp hReturns
  rcases run_escape_of_reject hReject hRun with ⟨hEscape, hMade⟩
  exact ⟨returns_generate_iff.mpr hEscape, hMade⟩

/- The resource of the run on one file. -/
def sampleResource : Resource :=
  ⟨"", "a.bin", "/w/a.bin", 3, "a_bin", "a_bin"⟩

/- The header of its bundle, if there is one. -/
def sampleHeader? : Option String :=
  (Bundle.ofResources [sampleResource] .reject).toOption.map
    (Header.render · ⟨"resource", "_GENERATED_RESOURCES_H", [], "R", .insertion⟩)

/-
  The run on one file gives the same report under `escape`, and both
  texts are then in their files.
-/
theorem escape_extends_reject_sample :
    sampleConfig.policy = .reject ∧
      (∃ (r : Report) (s' : Store),
        Returns (generate sampleRequest sampleConfig) sampleStore r s' ∧
          Returns (generate sampleRequest
            { sampleConfig with policy := .escape }) sampleStore r s' ∧
          s'.read "o.s" = .ok (Assembly.render [sampleResource] 4) ∧
          (s'.read "o.h").toOption = sampleHeader? ∧
          sampleHeader?.isSome) ∧
      Bundle.empty.insert hostile .escape ≠
        .error (.invalidIdentifier "" .empty) := by
  have hRun : ∃ (r : Report) (s' : Store),
      Returns (generate sampleRequest sampleConfig) sampleStore r s' ∧
        s'.read "o.s" = .ok (Assembly.render [sampleResource] 4) ∧
        (s'.read "o.h").toOption = sampleHeader? ∧
        sampleHeader?.isSome := by
    apply exists_returns_and
    decide +kernel
  rcases hRun with ⟨r, s', hReturns, hTexts⟩
  rcases escape_extends_reject with ⟨hExtends, hInsert⟩
  refine ⟨rfl, ⟨r, s', hReturns, ?_, hTexts⟩, hInsert _ _ _ _⟩
  exact (hExtends Store sampleRequest sampleConfig sampleStore s' r rfl
    hReturns).1

end Generation

end ResourcePack
