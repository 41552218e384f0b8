import ResourcePack.Proofs.Generation.Resolution
import ResourcePack.Proofs.Identifier.Flattening

/-
  Objects of one name in one namespace.

  Key definitions include:
    * `ResourcePack.Resource.SameObject`
    * `ResourcePack.Generation.Resolved`

  Main declarations:
    * `ResourcePack.Bundle.insertAll_eq_error_iff`
    * `ResourcePack.Generation.Resolved.fails_generate_iff`
    * `ResourcePack.Resource.symbol_eq_of_sameObject`
    * `ResourcePack.Generation.symbol_is_flat_path`

  A run that has resolved its names fails with the error of the first
  insertion that is refused, or because a file cannot be written.
  Under `reject` two objects of the same name in one namespace have
  the same symbol, which is looked at before the declarations are.
-/

------------------------------------------------------------
-- Refused Insertions of a Run
------------------------------------------------------------

namespace ResourcePack

namespace Bundle

variable {policy : Policy} {b : Bundle} {rs : List Resource} {e : Error}

/- A list is refused with the error of its first refused insertion. -/
theorem insertAll_eq_error_iff :
    b.insertAll policy rs = .error e ↔
      ∃ before r after b', rs = before ++ r :: after ∧
        b.insertAll policy before = .ok b' ∧
        b'.insert r policy = .error e := by
  constructor
  · intro hError
    induction rs generalizing b with
    | nil => cases hError
    | cons r rest ih =>
      rw [insertAll] at hError
      cases hInsert : b.insert r policy with
      | error e' =>
        rw [hInsert] at hError
        cases hError
        exact ⟨[], r, rest, b, rfl, rfl, hInsert⟩
      | ok b₁ =>
        rw [hInsert] at hError
        rcases ih hError with
          ⟨before, r', after, b', rfl, hBefore, hRefused⟩
        refine ⟨r :: before, r', after, b', rfl, ?_, hRefused⟩
        rw [insertAll, hInsert]
        exact hBefore
  · rintro ⟨before, r, after, b', rfl, hBefore, hRefused⟩
    rw [insertAll_append, hBefore, Except.bind, insertAll, hRefused]

/- A symbol that a resource of a bundle has is refused for that resource. -/
theorem insert_of_sameSymbol
    {q r : Resource}
    (hBundle : ofResources rs policy = .ok b)
    (hMem : q ∈ rs)
    (hSame : q.symbol = r.symbol) :
    b.insert r policy =
      .error (.duplicateSymbol r.symbol q.name r.name) := by
  have hFree := accepts_iff.mp ⟨b, hBundle⟩
  have hHaving : b.havingSymbol r.symbol = [q] := by
    rw [havingSymbol, resources_ofResources hBundle, ← hSame]
    exact filter_key_eq hFree.symbols hMem
  exact (holds_ofResources hBundle).2.insert_eq_duplicateSymbol_iff.mpr
    ⟨rfl, rfl, q, hHaving, rfl⟩

end Bundle

namespace Generation

section

variable {σ : Type} [Journal (StateM σ)]

/- Whatever is noted, a list is inserted or refused in the same way. -/
theorem result_insertAll
    (policy : Policy)
    (b : Bundle)
    (rs : List Resource)
    (s : σ) :
    ((insertAll policy b rs : ExceptT Error (StateM σ) Bundle).run.run
      s).1 = b.insertAll policy rs := by
  induction rs generalizing b s with
  | nil => rfl
  | cons r rest ih =>
    rw [insertAll, run_bind, Bundle.insertAll]
    cases hInsert : b.insert r policy with
    | error e => rfl
    | ok b₁ =>
      rcases exists_scopeOf_of_insert hInsert with ⟨scope, hScope⟩
      rw [hScope]
      exact ih b₁ _

/- So it is refused with the error of the insertions alone. -/
theorem exists_fails_insertAll_iff
    {policy : Policy}
    {b : Bundle}
    {rs : List Resource}
    {s : σ}
    {e : Error} :
    (∃ s', Fails (insertAll policy b rs) s e s') ↔
      b.insertAll policy rs = .error e := by
  rw [← result_insertAll policy b rs s]
  constructor
  · rintro ⟨s', hFails⟩
    exact congrArg Prod.fst hFails
  · intro hError
    exact ⟨_, Prod.ext hError rfl⟩

end

variable {σ : Type} [Workspace (StateM σ)] [Journal (StateM σ)]
variable {request : Request} {c : Config} {s s₁ s' : σ}
variable {rs : List Resource} {e : Error}

/- A configuration that is accepted has options for the header. -/
theorem exists_options_of_validate
    (hConfig : c.validate = .ok ()) :
    ∃ o, c.headerOptions = .ok o := by
  unfold Config.validate at hConfig
  cases hOptions : c.headerOptions with
  | ok o => exact ⟨o, rfl⟩
  | error e =>
    rw [hOptions] at hConfig
    cases hSearch : c.search.isEmpty <;>
      cases hAlign : Config.isPowerOfTwo c.align <;>
      rw [hSearch, hAlign] at hConfig <;> cases hConfig

/- A file that cannot be written is told as a fault of that file. -/
theorem file_of_fails_write
    {path text : String}
    (hFails : Fails (write path text) s e s') :
    ∃ fault, e = .file path fault := by
  rcases fails_bind_iff.mp hFails with hLift | ⟨result, s₁, -, hAfter⟩
  · exact absurd hLift not_fails_lift
  · cases result with
    | ok u => exact absurd hAfter not_fails_lift
    | error fault => exact ⟨fault, (fails_throw_iff.mp hAfter).1.symm⟩

/-
  A run that gets to its insertions: the configuration is accepted,
  and every name of the request is resolved.
-/
structure Resolved
    (request : Request)
    (c : Config)
    (s : σ)
    (rs : List Resource)
    (s₁ : σ) : Prop where
  valid : c.validate = .ok ()
  resolved : Returns (Resource.resolveAll c.symbolPrefix c.search c.policy
    request.resources) s rs s₁

/-
  Such a run fails with the error of an insertion, unless one of its
  files cannot be written.
-/
theorem Resolved.fails_generate_iff
    (hResolved : Resolved request c s rs s₁)
    (hNoFile : ∀ path fault, e ≠ .file path fault) :
    (∃ s', Fails (generate request c) s e s') ↔
      ∃ before r after b, rs = before ++ r :: after ∧
        Bundle.ofResources before c.policy = .ok b ∧
        b.insert r c.policy = .error e := by
  have hInsertions : (∃ s', Fails (insertAll c.policy Bundle.empty rs)
      s₁ e s') ↔ _ :=
    exists_fails_insertAll_iff.trans Bundle.insertAll_eq_error_iff
  refine Iff.trans ?_ hInsertions
  rcases exists_options_of_validate hResolved.valid with ⟨o, hOptions⟩
  have hBundle : ∀ {s'}, Fails (bundle request.resources c) s e s' ↔
      Fails (insertAll c.policy Bundle.empty rs) s₁ e s' :=
    fails_bind_of_returns hResolved.resolved
  have hRun : ∀ {s'}, Fails (run request c) s e s' ↔
      Fails (insertAll c.policy Bundle.empty rs) s₁ e s' := by
    intro s'
    unfold run
    rw [fails_bind_of_returns
        (returns_ofExcept_iff.mpr ⟨hResolved.valid, rfl⟩),
      fails_bind_of_returns (returns_ofExcept_iff.mpr ⟨hOptions, rfl⟩),
      fails_bind_iff, hBundle]
    refine or_iff_left ?_
    -- behind the insertions only the two files are left
    rintro ⟨b, s₂, -, hAfter⟩
    rcases fails_bind_iff.mp hAfter with hFault | ⟨_, s₃, -, hAfter⟩
    · rcases file_of_fails_write hFault with ⟨fault, hFile⟩
      exact hNoFile _ _ hFile
    rcases fails_bind_iff.mp hAfter with hFault | ⟨_, s₄, -, hAfter⟩
    · rcases file_of_fails_write hFault with ⟨fault, hFile⟩
      exact hNoFile _ _ hFile
    rcases fails_bind_iff.mp hAfter with hNote | ⟨_, s₅, -, hDone⟩
    · exact not_fails_lift hNote
    · exact not_fails_pure hDone
  constructor
  · rintro ⟨s', hFails⟩
    rcases Generation.fails_generate_iff.mp hFails with ⟨s₂, hStep, -⟩
    exact ⟨s₂, hRun.mp hStep⟩
  · rintro ⟨s', hInsert⟩
    exact ⟨_, Generation.fails_generate_iff.mpr ⟨s', hRun.mpr hInsert, rfl⟩⟩

end Generation

end ResourcePack

------------------------------------------------------------
-- Symbols of Siblings
------------------------------------------------------------

namespace ResourcePack

namespace Resource

open Generation Identifier

/- The same identifier in the same namespaces, taken as they stand. -/
def SameObject
    (q r : Resource) : Prop :=
  ∃ scope, Bundle.scopeOf q.name .reject = .ok scope ∧
    Bundle.scopeOf r.name .reject = .ok scope ∧ q.ident = r.ident

/- Under `reject`, names in normal form give one object one symbol. -/
theorem symbol_eq_of_sameObject
    {symbolPrefix : String}
    {q r : Resource}
    (hQ : q.MadeFrom symbolPrefix .reject)
    (hR : r.MadeFrom symbolPrefix .reject)
    (hNormalQ : Path.InNormalForm q.name)
    (hNormalR : Path.InNormalForm r.name)
    (hSame : q.SameObject r) :
    q.symbol = r.symbol := by
  rcases hSame with ⟨scope, hScopeQ, hScopeR, hIdent⟩
  rcases hQ with ⟨hSymbolQ, fileQ, hFileQ, hIdentQ⟩
  rcases hR with ⟨hSymbolR, fileR, hFileR, hIdentR⟩
  calc
    q.symbol = symbolPrefix ++ "_".intercalate (scope ++ [q.ident]) :=
      symbol_flat hNormalQ hSymbolQ hFileQ hIdentQ hScopeQ
    _ = symbolPrefix ++ "_".intercalate (scope ++ [r.ident]) := by
      rw [hIdent]
    _ = r.symbol :=
      (symbol_flat hNormalR hSymbolR hFileR hIdentR hScopeR).symm

end Resource

end ResourcePack

------------------------------------------------------------
-- Clashes of Siblings
------------------------------------------------------------

namespace ResourcePack

namespace Generation

open Identifier

/-
  Under `reject` a symbol is its header path flattened, for every
  prefix and every name in normal form whose parts are accepted.

  So in a run over such names two objects of one name in one namespace
  have the same symbol.  A run that meets two of them with nothing
  refused before fails with that symbol, and a run that fails with a
  declaration has no such two among what it has inserted and the
  resource that is refused.
-/
theorem symbol_is_flat_path :
    (∀ (symbolPrefix name symbol fileName ident : String)
        (scope : List String),
      Path.InNormalForm name →
        Identifier.symbol symbolPrefix name .reject = .ok symbol →
        Path.fileName? name = some fileName →
        ofFileName fileName .reject = .ok ident →
        Bundle.scopeOf name .reject = .ok scope →
          symbol = symbolPrefix ++ "_".intercalate (scope ++ [ident])) ∧
      ∀ (σ : Type) [Workspace (StateM σ)] [Journal (StateM σ)]
          (request : Request) (c : Config) (s s₁ : σ)
          (rs : List Resource),
        c.policy = .reject →
          (∀ name ∈ request.resources, Path.InNormalForm name) →
          Resolved request c s rs s₁ →
            (∀ q ∈ rs, ∀ r ∈ rs, q.SameObject r → q.symbol = r.symbol) ∧
            (∀ before r after b, rs = before ++ r :: after →
              Bundle.ofResources before .reject = .ok b →
                ∀ q ∈ before, q.SameObject r →
                  ∃ s', Fails (generate request c) s
                    (.duplicateSymbol r.symbol q.name r.name) s') ∧
            ∀ scope ident first second s',
              Fails (generate request c) s
                  (.duplicateDeclaration scope ident first second) s' →
                ∃ before r after b, rs = before ++ r :: after ∧
                  Bundle.ofResources before .reject = .ok b ∧
                  b.insert r .reject = .error
                    (.duplicateDeclaration scope ident first second) ∧
                  ∀ q ∈ before, ¬q.SameObject r := by
  refine ⟨fun _ _ _ _ _ _ => symbol_flat, ?_⟩
  intro σ _ _ request c s s₁ rs hReject hNormal hResolved
  have hSymbols : ∀ q ∈ rs, ∀ r ∈ rs, q.SameObject r →
      q.symbol = r.symbol := by
    intro q hQ r hR hSame
    have hMade := Resource.madeFrom_of_resolveAll hResolved.resolved
    rw [hReject] at hMade
    exact Resource.symbol_eq_of_sameObject (hMade q hQ).2 (hMade r hR).2
      (hNormal _ (hMade q hQ).1) (hNormal _ (hMade r hR).1) hSame
  have hTold : ∀ before r after b, rs = before ++ r :: after →
      Bundle.ofResources before .reject = .ok b →
        ∀ q ∈ before, q.SameObject r → b.insert r .reject =
          .error (.duplicateSymbol r.symbol q.name r.name) := by
    rintro before r after b rfl hBundle q hQ hSame
    exact Bundle.insert_of_sameSymbol hBundle hQ
      (hSymbols q (by simp [hQ]) r (by simp) hSame)
  refine ⟨hSymbols, ?_, ?_⟩
  · intro before r after b hList hBundle q hQ hSame
    refine (hResolved.fails_generate_iff (fun _ _ => by simp)).mpr ?_
    rw [hReject]
    exact ⟨before, r, after, b, hList, hBundle,
      hTold before r after b hList hBundle q hQ hSame⟩
  · intro scope ident first second s' hFails
    have hRefused :=
      (hResolved.fails_generate_iff (fun _ _ => by simp)).mp ⟨s', hFails⟩
    rw [hReject] at hRefused
    rcases hRefused with ⟨before, r, after, b, hList, hBundle, hInsert⟩
    refine ⟨before, r, after, b, hList, hBundle, hInsert, ?_⟩
    intro q hQ hSame
    cases hInsert.symm.trans
      (hTold before r after b hList hBundle q hQ hSame)

/-
  A store with two files of one flattened path, and with a file whose
  identifier is the directory of another one.
-/
def siblingStore : Store where
  entries := [
    (["w"], .directory), (["w", "ui"], .directory),
    (["w", "ui", "a.b"], .file "1".toByteArray), (["w", "ui", "a_b"], .file "22".toByteArray),
    (["w", "x.y"], .file "333".toByteArray), (["w", "x_y"], .directory),
    (["w", "x_y", "c"], .file "".toByteArray)]
  here := ["w"]

/- What a run on those files needs to be told. -/
def siblingConfig : Config :=
  { symbolPrefix := "p_", resourceClass := some "R", search := ["."] }

/- The names with a dot and with an underscore are one object. -/
def siblingRequest : Request :=
  ⟨["ui/a.b", "ui/a_b"], "o.s", "o.h"⟩

def dotted : Resource :=
  ⟨"p_", "ui/a.b", "/w/ui/a.b", 1, "p_ui_a_b", "a_b"⟩

def underscored : Resource :=
  ⟨"p_", "ui/a_b", "/w/ui/a_b", 2, "p_ui_a_b", "a_b"⟩

/- The object of the first name is in the way of a namespace. -/
def barredRequest : Request :=
  ⟨["x.y", "x_y/c"], "o.s", "o.h"⟩

def barring : Resource :=
  ⟨"p_", "x.y", "/w/x.y", 3, "p_x_y", "x_y"⟩

def barred : Resource :=
  ⟨"p_", "x_y/c", "/w/x_y/c", 0, "p_x_y_c", "c"⟩

/-
  Two names that differ in a dot have the symbol that is made of their
  namespace and their identifier, and a run over them fails with it.
  An object in the way of a namespace is told as a declaration.
-/
theorem symbol_is_flat_path_sample :
    Path.InNormalForm "ui/a.b" ∧
      "p_ui_a_b" = "p_" ++ "_".intercalate (["ui"] ++ ["a_b"]) ∧
      (∃ s₁, Resolved siblingRequest siblingConfig siblingStore
          [dotted, underscored] s₁ ∧
        dotted.SameObject underscored ∧
        dotted.symbol = underscored.symbol ∧
        ∃ s', Fails (generate siblingRequest siblingConfig) siblingStore
          (.duplicateSymbol "p_ui_a_b" "ui/a.b" "ui/a_b") s') ∧
      ∃ s₁ s', Resolved barredRequest siblingConfig siblingStore
          [barring, barred] s₁ ∧
        Fails (generate barredRequest siblingConfig) siblingStore
          (.duplicateDeclaration [] "x_y" (.resource "x.y") "x_y/c") s' ∧
        ∃ before r after, [barring, barred] = before ++ r :: after ∧
          ∀ q ∈ before, ¬q.SameObject r := by
  have hDot : Path.InNormalForm "ui/a.b" :=
    ⟨["ui", "a.b"], by decide, by decide +kernel, by decide +kernel⟩
  have hLine : Path.InNormalForm "ui/a_b" :=
    ⟨["ui", "a_b"], by decide, by decide +kernel, by decide +kernel⟩
  have hObject : Path.InNormalForm "x.y" :=
    ⟨["x.y"], by decide, by decide +kernel, by decide +kernel⟩
  have hBelow : Path.InNormalForm "x_y/c" :=
    ⟨["x_y", "c"], by decide, by decide +kernel, by decide +kernel⟩
  have hValid : siblingConfig.validate = .ok () := by decide +kernel
  rcases symbol_is_flat_path with ⟨hFlat, hRun⟩
  refine ⟨hDot, ?_, ?_, ?_⟩
  · exact hFlat "p_" "ui/a.b" _ "a.b" _ ["ui"] hDot (by decide +kernel)
      (by decide +kernel) (by decide +kernel) (by decide +kernel)
  · have hResolve : ∃ (rs : List Resource) (s₁ : Store),
        Returns (Resource.resolveAll "p_" ["."] .reject
          ["ui/a.b", "ui/a_b"]) siblingStore rs s₁ ∧
          rs = [dotted, underscored] := by
      apply exists_returns_and
      decide +kernel
    rcases hResolve with ⟨_, s₁, hReturns, rfl⟩
    have hResolved : Resolved siblingRequest siblingConfig siblingStore
        [dotted, underscored] s₁ :=
      ⟨hValid, hReturns⟩
    have hNormal : ∀ name ∈ siblingRequest.resources,
        Path.InNormalForm name := by
      rw [siblingRequest, List.forall_mem_cons, List.forall_mem_singleton]
      exact ⟨hDot, hLine⟩
    have hSame : dotted.SameObject underscored :=
      ⟨["ui"], by decide +kernel, by decide +kernel, rfl⟩
    rcases hRun Store _ _ _ s₁ _ rfl hNormal hResolved with
      ⟨hSymbols, hTold, -⟩
    exact ⟨s₁, hResolved, hSame,
      hSymbols _ (by simp) _ (by simp) hSame,
      hTold [dotted] underscored [] _ rfl rfl dotted (by simp) hSame⟩
  · have hResolve : ∃ (rs : List Resource) (s₁ : Store),
        Returns (Resource.resolveAll "p_" ["."] .reject
          ["x.y", "x_y/c"]) siblingStore rs s₁ ∧
          rs = [barring, barred] := by
      apply exists_returns_and
      decide +kernel
    rcases hResolve with ⟨_, s₁, hReturns, rfl⟩
    have hResolved : Resolved barredRequest siblingConfig siblingStore
        [barring, barred] s₁ :=
      ⟨hValid, hReturns⟩
    have hNormal : ∀ name ∈ barredRequest.resources,
        Path.InNormalForm name := by
      rw [barredRequest, List.forall_mem_cons, List.forall_mem_singleton]
      exact ⟨hObject, hBelow⟩
    have hFails : ∃ e s', Fails (generate barredRequest siblingConfig)
          siblingStore e s' ∧
        e = .duplicateDeclaration [] "x_y" (.resource "x.y") "x_y/c" := by
      apply exists_fails_and
      decide +kernel
    rcases hFails with ⟨_, s', hFails, rfl⟩
    rcases hRun Store _ _ _ s₁ _ rfl hNormal hResolved with
      ⟨-, -, hDeclared⟩
    rcases hDeclared _ _ _ _ _ hFails with
      ⟨before, r, after, b, hList, -, -, hNone⟩
    exact ⟨s₁, s', hResolved, hFails, before, r, after, hList, hNone⟩

end Generation

end ResourcePack
