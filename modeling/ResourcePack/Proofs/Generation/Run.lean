import ResourcePack.Generation
import ResourcePack.Proofs.Bundle.Names

/-
  What a run that succeeds has done.

  Key definitions include:
    * `ResourcePack.Generation.Returns`
    * `ResourcePack.Generation.Writes`
    * `ResourcePack.Generation.Made`

  Main declarations:
    * `ResourcePack.Generation.returns_bind_iff`
    * `ResourcePack.Generation.returns_run_iff`
    * `ResourcePack.Generation.returns_generate_iff`
    * `ResourcePack.Generation.made_of_generate`

  Runs are taken apart step by step.  Nothing is assumed of the
  files that they work on: a state may answer and change as it
  likes.
-/

------------------------------------------------------------
-- Steps
------------------------------------------------------------

namespace ResourcePack

namespace Generation

variable {σ α β : Type}

/-
  Started in one state, a computation returns a value and leaves
  another state.
-/
def Returns
    (x : ExceptT Error (StateM σ) α)
    (s : σ)
    (a : α)
    (s' : σ) : Prop :=
  x.run.run s = (.ok a, s')

/- The second of two steps goes on from where the first has ended. -/
theorem run_bind
    (x : ExceptT Error (StateM σ) α)
    (f : α → ExceptT Error (StateM σ) β)
    (s : σ) :
    (x >>= f).run.run s =
      match x.run.run s with
      | (.ok a, s') => (f a).run.run s'
      | (.error e, s') => (.error e, s') := by
  have hStep : (x >>= f).run.run s =
      (ExceptT.bindCont f (x.run.run s).1).run (x.run.run s).2 :=
    rfl
  rw [hStep]
  rcases x.run.run s with ⟨e | a, s'⟩ <;> rfl

/- Two steps return what the second does after the first. -/
theorem returns_bind_iff
    {x : ExceptT Error (StateM σ) α}
    {f : α → ExceptT Error (StateM σ) β}
    {s s'' : σ}
    {b : β} :
    Returns (x >>= f) s b s'' ↔
      ∃ a s', Returns x s a s' ∧ Returns (f a) s' b s'' := by
  unfold Returns
  rw [run_bind]
  rcases x.run.run s with ⟨e | a, s'⟩
  · constructor
    · intro hError
      cases hError
    · intro hSome
      rcases hSome with ⟨a, s', hFirst, -⟩
      cases hFirst
  · constructor
    · intro hSecond
      exact ⟨a, s', rfl, hSecond⟩
    · intro hSome
      rcases hSome with ⟨a', s₁, hFirst, hSecond⟩
      cases hFirst
      exact hSecond

theorem returns_pure_iff
    {a a' : α}
    {s s' : σ} :
    Returns (pure a : ExceptT Error (StateM σ) α) s a' s' ↔
      a = a' ∧ s = s' := by
  have hRun : (pure a : ExceptT Error (StateM σ) α).run.run s =
      (.ok a, s) :=
    rfl
  unfold Returns
  rw [hRun, Prod.mk.injEq, Except.ok.injEq]

theorem returns_ofExcept_iff
    {x : Except Error α}
    {a : α}
    {s s' : σ} :
    Returns (MonadExcept.ofExcept x : ExceptT Error (StateM σ) α) s a s' ↔
      x = .ok a ∧ s = s' := by
  cases x with
  | error e =>
    constructor
    · intro hReturns
      cases hReturns
    · intro hOk
      cases hOk.1
  | ok a' =>
    have hRun : (MonadExcept.ofExcept (.ok a') :
        ExceptT Error (StateM σ) α).run.run s = (.ok a', s) :=
      rfl
    unfold Returns
    rw [hRun, Prod.mk.injEq]

theorem returns_lift_iff
    {x : StateM σ α}
    {a : α}
    {s s' : σ} :
    Returns (liftM x : ExceptT Error (StateM σ) α) s a s' ↔
      x.run s = (a, s') := by
  have hRun : (liftM x : ExceptT Error (StateM σ) α).run.run s =
      (.ok (x.run s).1, (x.run s).2) :=
    rfl
  unfold Returns
  rw [hRun]
  rcases x.run s with ⟨a', s₁⟩
  constructor <;> intro hSame <;> cases hSame <;> rfl

theorem not_returns_throw
    {e : Error}
    {a : α}
    {s s' : σ} :
    ¬Returns (throw e : ExceptT Error (StateM σ) α) s a s' := by
  intro hReturns
  cases hReturns

/- A computation that can be seen to end returns and leaves what is seen. -/
theorem exists_returns_and
    {x : ExceptT Error (StateM σ) α}
    {s : σ}
    {p : α → σ → Prop}
    [∀ a s', Decidable (p a s')]
    (hRun : (match x.run.run s with
      | (.ok a, s') => decide (p a s')
      | (.error _, _) => false) = true) :
    ∃ a s', Returns x s a s' ∧ p a s' := by
  unfold Returns
  rcases hPair : x.run.run s with ⟨e | a, s'⟩ <;> rw [hPair] at hRun
  · cases hRun
  · exact ⟨a, s', rfl, of_decide_eq_true hRun⟩

theorem exists_returns
    {x : ExceptT Error (StateM σ) α}
    {s : σ}
    {f : α → β}
    {b : β}
    (hRun : (x.run.run s).1.toOption.map f = some b) :
    ∃ a s', Returns x s a s' ∧ f a = b := by
  unfold Returns
  rcases hPair : x.run.run s with ⟨e | a, s'⟩ <;> rw [hPair] at hRun
  · cases hRun
  · exact ⟨a, s', rfl, Option.some.inj hRun⟩

end Generation

end ResourcePack

------------------------------------------------------------
-- Resources
------------------------------------------------------------

namespace ResourcePack

namespace Generation

open Identifier

variable {σ : Type} [Workspace (StateM σ)]

theorem returns_describe_iff
    {symbolPrefix name path : String}
    {policy : Policy}
    {s s' : σ}
    {r : Resource} :
    Returns (Resource.describe symbolPrefix name path policy) s r s' ↔
      ∃ size fileName symbol ident canonical s₁,
        (Workspace.size path : StateM σ _).run s = (.ok size, s₁) ∧
          Path.fileName? name = some fileName ∧
          Identifier.symbol symbolPrefix name policy = .ok symbol ∧
          ofFileName fileName policy = .ok ident ∧
          (Workspace.canonical path : StateM σ _).run s₁ =
            (.ok canonical, s') ∧
          r = ⟨symbolPrefix, name, canonical, size, symbol, ident⟩ := by
  unfold Resource.describe
  constructor
  · intro hReturns
    rcases returns_bind_iff.mp hReturns with ⟨size, s₁, hSize, hAfter⟩
    cases size with
    | error fault => cases fault <;> exact absurd hAfter not_returns_throw
    | ok size =>
      cases hName : Path.fileName? name with
      | none =>
        simp only [hName] at hAfter
        exact absurd hAfter not_returns_throw
      | some fileName =>
        simp only [hName] at hAfter
        rcases returns_bind_iff.mp hAfter with ⟨symbol, s₂, hSymbol, hAfter⟩
        rcases returns_bind_iff.mp hAfter with ⟨ident, s₃, hIdent, hAfter⟩
        rcases returns_bind_iff.mp hAfter with
          ⟨canonical, s₄, hCanonical, hAfter⟩
        cases canonical with
        | error fault => exact absurd hAfter not_returns_throw
        | ok canonical =>
          rcases returns_ofExcept_iff.mp hSymbol with ⟨hSymbol, hSame₁⟩
          rcases returns_ofExcept_iff.mp hIdent with ⟨hIdent, hSame₂⟩
          rcases returns_pure_iff.mp hAfter with ⟨hResource, hSame₃⟩
          rw [← hSame₂, ← hSame₁, hSame₃] at hCanonical
          exact ⟨size, fileName, symbol, ident, canonical, s₁,
            returns_lift_iff.mp hSize, rfl, hSymbol, hIdent,
            returns_lift_iff.mp hCanonical, hResource.symm⟩
  · rintro ⟨size, fileName, symbol, ident, canonical, s₁, hSize, hName,
      hSymbol, hIdent, hCanonical, hResource⟩
    refine returns_bind_iff.mpr
      ⟨.ok size, s₁, returns_lift_iff.mpr hSize, ?_⟩
    simp only [hName]
    refine returns_bind_iff.mpr
      ⟨symbol, s₁, returns_ofExcept_iff.mpr ⟨hSymbol, rfl⟩, ?_⟩
    refine returns_bind_iff.mpr
      ⟨ident, s₁, returns_ofExcept_iff.mpr ⟨hIdent, rfl⟩, ?_⟩
    refine returns_bind_iff.mpr
      ⟨.ok canonical, s', returns_lift_iff.mpr hCanonical, ?_⟩
    exact returns_pure_iff.mpr ⟨hResource.symm, rfl⟩

theorem sanitized_of_describe
    {symbolPrefix name path : String}
    {policy : Policy}
    {s s' : σ}
    {r : Resource}
    (hReturns : Returns (Resource.describe symbolPrefix name path policy)
      s r s') :
    r.Sanitized := by
  rcases returns_describe_iff.mp hReturns with
    ⟨_, _, _, _, _, _, -, -, hSymbol, hIdent, -, hResource⟩
  rw [hResource]
  exact ⟨⟨policy, _, hSymbol⟩, ⟨policy, _, hIdent⟩⟩

variable [Journal (StateM σ)]

theorem returns_resolve_iff
    {symbolPrefix name : String}
    {directories : List String}
    {policy : Policy}
    {s s' : σ}
    {r : Resource} :
    Returns (Resource.resolve symbolPrefix directories policy name) s r s' ↔
      ∃ path s₁, Returns (Resource.find name directories) s path s₁ ∧
        Returns (Resource.describe symbolPrefix name path policy) s₁ r s' :=
  returns_bind_iff

theorem returns_resolveAll_cons_iff
    {symbolPrefix name : String}
    {directories rest : List String}
    {policy : Policy}
    {s s' : σ}
    {rs : List Resource} :
    Returns (Resource.resolveAll symbolPrefix directories policy
        (name :: rest)) s rs s' ↔
      ∃ r others s₁,
        Returns (Resource.resolve symbolPrefix directories policy name)
            s r s₁ ∧
          Returns (Resource.resolveAll symbolPrefix directories policy rest)
            s₁ others s' ∧
          rs = r :: others := by
  constructor
  · intro hReturns
    rcases returns_bind_iff.mp hReturns with ⟨r, s₁, hFirst, hAfter⟩
    rcases returns_bind_iff.mp hAfter with ⟨others, s₂, hRest, hAfter⟩
    rcases returns_pure_iff.mp hAfter with ⟨hList, hSame⟩
    exact ⟨r, others, s₁, hFirst, hSame ▸ hRest, hList.symm⟩
  · rintro ⟨r, others, s₁, hFirst, hRest, hList⟩
    refine returns_bind_iff.mpr ⟨r, s₁, hFirst, ?_⟩
    refine returns_bind_iff.mpr ⟨others, s', hRest, ?_⟩
    exact returns_pure_iff.mpr ⟨hList.symm, rfl⟩

theorem names_of_resolveAll
    {symbolPrefix : String}
    {directories names : List String}
    {policy : Policy}
    {s s' : σ}
    {rs : List Resource}
    (hReturns : Returns
      (Resource.resolveAll symbolPrefix directories policy names) s rs s') :
    rs.map Resource.name = names := by
  induction names generalizing s s' rs with
  | nil =>
    rcases returns_pure_iff.mp hReturns with ⟨hNil, -⟩
    rw [← hNil, List.map_nil]
  | cons name rest ih =>
    rcases returns_resolveAll_cons_iff.mp hReturns with
      ⟨r, others, s₁, hFirst, hRest, hList⟩
    rcases returns_resolve_iff.mp hFirst with ⟨path, s₂, -, hDescribe⟩
    rcases returns_describe_iff.mp hDescribe with
      ⟨_, _, _, _, _, _, -, -, -, -, -, hResource⟩
    rw [hList, List.map_cons, ih hRest, hResource]

/- The names of all resources that were resolved are sanitized. -/
theorem sanitized_of_resolveAll
    {symbolPrefix : String}
    {directories names : List String}
    {policy : Policy}
    {s s' : σ}
    {rs : List Resource}
    (hReturns : Returns
      (Resource.resolveAll symbolPrefix directories policy names) s rs s') :
    ∀ r ∈ rs, r.Sanitized := by
  induction names generalizing s s' rs with
  | nil =>
    rcases returns_pure_iff.mp hReturns with ⟨hNil, -⟩
    rw [← hNil]
    intro r hMem
    cases hMem
  | cons name rest ih =>
    rcases returns_resolveAll_cons_iff.mp hReturns with
      ⟨r, others, s₁, hFirst, hRest, hList⟩
    rcases returns_resolve_iff.mp hFirst with ⟨path, s₂, -, hDescribe⟩
    rw [hList, List.forall_mem_cons]
    exact ⟨sanitized_of_describe hDescribe, ih hRest⟩

end Generation

end ResourcePack

------------------------------------------------------------
-- Insertion
------------------------------------------------------------

namespace ResourcePack

namespace Generation

variable {σ : Type} [Journal (StateM σ)]

/- Resources are inserted one after the other, and each is noted. -/
theorem returns_insertAll_cons_iff
    {policy : Policy}
    {b b' : Bundle}
    {r : Resource}
    {rest : List Resource}
    {s s' : σ} :
    Returns (insertAll policy b (r :: rest)) s b' s' ↔
      ∃ b₁ scope s₁,
        b.insert r policy = .ok b₁ ∧
          Bundle.scopeOf r.name policy = .ok scope ∧
          Returns (note (.inserted r.name (scopeName scope))) s () s₁ ∧
          Returns (insertAll policy b₁ rest) s₁ b' s' := by
  constructor
  · intro hReturns
    rcases returns_bind_iff.mp hReturns with ⟨b₁, s₁, hInsert, hAfter⟩
    rcases returns_bind_iff.mp hAfter with ⟨scope, s₂, hScope, hAfter⟩
    rcases returns_bind_iff.mp hAfter with ⟨_, s₃, hNote, hRest⟩
    rcases returns_ofExcept_iff.mp hInsert with ⟨hInsert, hSame₁⟩
    rcases returns_ofExcept_iff.mp hScope with ⟨hScope, hSame₂⟩
    rw [← hSame₂, ← hSame₁] at hNote
    exact ⟨b₁, scope, s₃, hInsert, hScope, hNote, hRest⟩
  · rintro ⟨b₁, scope, s₁, hInsert, hScope, hNote, hRest⟩
    refine returns_bind_iff.mpr
      ⟨b₁, s, returns_ofExcept_iff.mpr ⟨hInsert, rfl⟩, ?_⟩
    refine returns_bind_iff.mpr
      ⟨scope, s, returns_ofExcept_iff.mpr ⟨hScope, rfl⟩, ?_⟩
    exact returns_bind_iff.mpr ⟨(), s₁, hNote, hRest⟩

/- What is noted in between does not change what is inserted. -/
theorem insertAll_of_returns
    {policy : Policy}
    {b b' : Bundle}
    {rs : List Resource}
    {s s' : σ}
    (hReturns : Returns (insertAll policy b rs) s b' s') :
    b.insertAll policy rs = .ok b' := by
  induction rs generalizing b s with
  | nil =>
    rcases returns_pure_iff.mp hReturns with ⟨hSame, -⟩
    rw [Bundle.insertAll, hSame]
  | cons r rest ih =>
    rcases returns_insertAll_cons_iff.mp hReturns with
      ⟨b₁, scope, s₁, hInsert, -, -, hRest⟩
    rw [Bundle.insertAll, hInsert]
    exact ih hRest

variable [Workspace (StateM σ)]

theorem returns_bundle_iff
    {names : List String}
    {c : Config}
    {b : Bundle}
    {s s' : σ} :
    Returns (bundle names c) s b s' ↔
      ∃ rs s₁,
        Returns (Resource.resolveAll c.symbolPrefix c.search c.policy names)
            s rs s₁ ∧
          Returns (insertAll c.policy Bundle.empty rs) s₁ b s' :=
  returns_bind_iff

/- The bundle of a run is one of sanitized resources of these names. -/
theorem ofResources_of_bundle
    {names : List String}
    {c : Config}
    {b : Bundle}
    {s s' : σ}
    (hReturns : Returns (bundle names c) s b s') :
    b.resources.map Resource.name = names ∧
      (∀ r ∈ b.resources, r.Sanitized) ∧
      Bundle.ofResources b.resources c.policy = .ok b := by
  rcases returns_bundle_iff.mp hReturns with ⟨rs, s₁, hResolve, hInsert⟩
  have hBundle : Bundle.ofResources rs c.policy = .ok b :=
    insertAll_of_returns hInsert
  rw [Bundle.resources_ofResources hBundle]
  exact ⟨names_of_resolveAll hResolve, sanitized_of_resolveAll hResolve,
    hBundle⟩

end Generation

end ResourcePack

------------------------------------------------------------
-- Runs
------------------------------------------------------------

namespace ResourcePack

namespace Generation

variable {σ : Type} [Workspace (StateM σ)] [Journal (StateM σ)]

theorem validate_options
    {c : Config}
    {o : HeaderOptions}
    (hConfig : c.validate = .ok ())
    (hOptions : c.headerOptions = .ok o) :
    o.validate = .ok () := by
  unfold Config.validate at hConfig
  rw [hOptions] at hConfig
  cases hSearch : c.search.isEmpty with
  | true =>
    rw [hSearch] at hConfig
    cases hConfig
  | false =>
    cases hAlign : Config.isPowerOfTwo c.align with
    | false =>
      rw [hSearch, hAlign] at hConfig
      cases hConfig
    | true =>
      rw [hSearch, hAlign] at hConfig
      exact hConfig

/- A text takes the place of what a file holds, and this is noted. -/
def Writes
    (path text : String)
    (s s' : σ) : Prop :=
  ∃ s₁, (Workspace.write path text : StateM σ _).run s = (.ok (), s₁) ∧
    (Journal.note (.wrote path text.utf8ByteSize) : StateM σ Unit).run s₁ =
      ((), s')

/- One of the two files is written as all files are. -/
theorem returns_write_iff
    {path text : String}
    {s s' : σ} :
    Returns (write path text) s () s' ↔ Writes path text s s' := by
  unfold write Writes
  constructor
  · intro hReturns
    rcases returns_bind_iff.mp hReturns with ⟨result, s₁, hWrite, hAfter⟩
    cases result with
    | error fault => exact absurd hAfter not_returns_throw
    | ok done =>
      exact ⟨s₁, returns_lift_iff.mp hWrite, returns_lift_iff.mp hAfter⟩
  · rintro ⟨s₁, hWrite, hNote⟩
    exact returns_bind_iff.mpr ⟨.ok (), s₁, returns_lift_iff.mpr hWrite,
      returns_lift_iff.mpr hNote⟩

/-
  What a run that returned a report has made: the options of the
  configuration, which are accepted, a bundle of sanitized resources
  that have the names of the request, and the two files, the
  assembly file first.  After them nothing is done but to note that
  this was all.
-/
structure Made
    (request : Request)
    (c : Config)
    (s s' : σ)
    (result : Report)
    (o : HeaderOptions)
    (b : Bundle) : Prop where
  options : c.headerOptions = .ok o
  valid : o.validate = .ok ()
  names : b.resources.map Resource.name = request.resources
  sanitized : ∀ r ∈ b.resources, r.Sanitized
  inserted : Bundle.ofResources b.resources c.policy = .ok b
  written : ∃ s₁ s₂ s₃,
    Returns (bundle request.resources c) s b s₁ ∧
      Writes request.asm (Assembly.render b.resources c.align) s₁ s₂ ∧
      Writes request.header (Header.render b o) s₂ s₃ ∧
      (Journal.note (.generated b.size request.asm request.header) :
        StateM σ Unit).run s₃ = ((), s')
  reported : result = report request b

theorem returns_run_iff
    {request : Request}
    {c : Config}
    {s s' : σ}
    {r : Report} :
    Returns (run request c) s r s' ↔
      ∃ o b s₁ s₂ s₃,
        c.validate = .ok () ∧
          c.headerOptions = .ok o ∧
          Returns (bundle request.resources c) s b s₁ ∧
          Returns (write request.asm (Assembly.render b.resources c.align))
            s₁ () s₂ ∧
          Returns (write request.header (Header.render b o)) s₂ () s₃ ∧
          Returns (note (.generated b.size request.asm request.header))
            s₃ () s' ∧
          r = report request b := by
  unfold run
  constructor
  · intro hReturns
    rcases returns_bind_iff.mp hReturns with ⟨_, s₁, hConfig, hAfter⟩
    rcases returns_bind_iff.mp hAfter with ⟨o, s₂, hOptions, hAfter⟩
    rcases returns_bind_iff.mp hAfter with ⟨b, s₃, hBundle, hAfter⟩
    rcases returns_bind_iff.mp hAfter with ⟨_, s₄, hAsm, hAfter⟩
    rcases returns_bind_iff.mp hAfter with ⟨_, s₅, hHeader, hAfter⟩
    rcases returns_bind_iff.mp hAfter with ⟨_, s₆, hNote, hAfter⟩
    rcases returns_ofExcept_iff.mp hConfig with ⟨hConfig, hSame₁⟩
    rcases returns_ofExcept_iff.mp hOptions with ⟨hOptions, hSame₂⟩
    rcases returns_pure_iff.mp hAfter with ⟨hReport, hSame₃⟩
    rw [← hSame₂, ← hSame₁] at hBundle
    rw [hSame₃] at hNote
    exact ⟨o, b, s₃, s₄, s₅, hConfig, hOptions, hBundle, hAsm, hHeader,
      hNote, hReport.symm⟩
  · rintro ⟨o, b, s₁, s₂, s₃, hConfig, hOptions, hBundle, hAsm, hHeader,
      hNote, hReport⟩
    refine returns_bind_iff.mpr
      ⟨(), s, returns_ofExcept_iff.mpr ⟨hConfig, rfl⟩, ?_⟩
    refine returns_bind_iff.mpr
      ⟨o, s, returns_ofExcept_iff.mpr ⟨hOptions, rfl⟩, ?_⟩
    refine returns_bind_iff.mpr ⟨b, s₁, hBundle, ?_⟩
    refine returns_bind_iff.mpr ⟨(), s₂, hAsm, ?_⟩
    refine returns_bind_iff.mpr ⟨(), s₃, hHeader, ?_⟩
    refine returns_bind_iff.mpr ⟨(), s', hNote, ?_⟩
    exact returns_pure_iff.mpr ⟨hReport.symm, rfl⟩

/- What a run has made, from its steps. -/
theorem made_of_steps
    {request : Request}
    {c : Config}
    {s s₁ s₂ s₃ s' : σ}
    {o : HeaderOptions}
    {b : Bundle}
    (hConfig : c.validate = .ok ())
    (hOptions : c.headerOptions = .ok o)
    (hBundle : Returns (bundle request.resources c) s b s₁)
    (hAsm : Returns
      (write request.asm (Assembly.render b.resources c.align)) s₁ () s₂)
    (hHeader : Returns (write request.header (Header.render b o)) s₂ () s₃)
    (hNote : Returns
      (note (.generated b.size request.asm request.header)) s₃ () s') :
    Made request c s s' (report request b) o b := by
  rcases ofResources_of_bundle hBundle with
    ⟨hNames, hSanitized, hInserted⟩
  exact
    { options := hOptions
      valid := validate_options hConfig hOptions
      names := hNames
      sanitized := hSanitized
      inserted := hInserted
      written := ⟨s₁, s₂, s₃, hBundle, returns_write_iff.mp hAsm,
        returns_write_iff.mp hHeader, returns_lift_iff.mp hNote⟩
      reported := rfl }

/- A call ends as its run does, and notes a failure. -/
theorem run_generate
    (request : Request)
    (c : Config)
    (s : σ) :
    (generate request c : ExceptT Error (StateM σ) Report).run.run s =
      match (run request c : ExceptT Error (StateM σ) Report).run.run s with
      | (.ok r, s') => (.ok r, s')
      | (.error e, s') => (.error e,
          ((Journal.note (.failed e.message) : StateM σ Unit).run s').2) := by
  unfold generate
  rw [ExceptT.run_mk, StateT.run_bind]
  rcases (run request c : ExceptT Error (StateM σ) Report).run.run s with
    ⟨e | r, s'⟩ <;> rfl

/- A call returns what the steps of the run return. -/
theorem returns_generate_iff
    {request : Request}
    {c : Config}
    {s s' : σ}
    {r : Report} :
    Returns (generate request c) s r s' ↔
      Returns (run request c) s r s' := by
  unfold Returns
  rw [run_generate]
  rcases (run request c : ExceptT Error (StateM σ) Report).run.run s with
    ⟨e | r', s₁⟩
  · constructor <;> intro hReturns <;> cases hReturns
  · exact Iff.rfl

/- What a call that returned a report has made. -/
theorem made_of_generate
    {request : Request}
    {c : Config}
    {s s' : σ}
    {r : Report}
    (hReturns : Returns (generate request c) s r s') :
    ∃ o b, Made request c s s' r o b := by
  rcases returns_run_iff.mp (returns_generate_iff.mp hReturns) with
    ⟨o, b, s₁, s₂, s₃, hConfig, hOptions, hBundle, hAsm, hHeader, hNote,
      hReport⟩
  rw [hReport]
  exact ⟨o, b,
    made_of_steps hConfig hOptions hBundle hAsm hHeader hNote⟩

end Generation

end ResourcePack
