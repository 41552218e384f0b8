import ResourcePack.Proofs.Generation.Outputs

/-
  What a run that fails leaves in a store.

  Key definitions include:
    * `ResourcePack.Generation.Fails`
    * `ResourcePack.Generation.Ready`
    * `ResourcePack.Generation.OutputFault`

  Main declarations:
    * `ResourcePack.Generation.fails_bind_iff`
    * `ResourcePack.Generation.fails_run`
    * `ResourcePack.Generation.unchanged_on_failure`

  Everything that can be wrong with a request is found before the
  first file is opened.  A run that fails has changed the store only
  if its assembly file is written and its header cannot be.
-/

------------------------------------------------------------
-- Steps
------------------------------------------------------------

namespace ResourcePack

namespace Generation

variable {σ α β : Type}

/-
  Started in one state, a computation ends with an error and leaves
  another state.
-/
def Fails
    (x : ExceptT Error (StateM σ) α)
    (s : σ)
    (e : Error)
    (s' : σ) : Prop :=
  x.run.run s = (.error e, s')

/- A computation returns a value or it fails. -/
theorem returns_or_fails
    (x : ExceptT Error (StateM σ) α)
    (s : σ) :
    (∃ a s', Returns x s a s') ∨ ∃ e s', Fails x s e s' := by
  unfold Returns Fails
  rcases x.run.run s with ⟨e | a, s'⟩
  · exact Or.inr ⟨e, s', rfl⟩
  · exact Or.inl ⟨a, s', rfl⟩

/- Two steps fail where the first fails, or the second after it. -/
theorem fails_bind_iff
    {x : ExceptT Error (StateM σ) α}
    {f : α → ExceptT Error (StateM σ) β}
    {s s'' : σ}
    {e : Error} :
    Fails (x >>= f) s e s'' ↔
      Fails x s e s'' ∨
        ∃ a s', Returns x s a s' ∧ Fails (f a) s' e s'' := by
  unfold Fails Returns
  rw [run_bind]
  rcases x.run.run s with ⟨e' | a, s'⟩
  · constructor
    · intro hError
      cases hError
      exact Or.inl rfl
    · rintro (hError | ⟨a, s₁, hFirst, -⟩)
      · cases hError
        rfl
      · cases hFirst
  · constructor
    · intro hSecond
      exact Or.inr ⟨a, s', rfl, hSecond⟩
    · rintro (hError | ⟨a', s₁, hFirst, hSecond⟩)
      · cases hError
      · cases hFirst
        exact hSecond

theorem not_fails_pure
    {a : α}
    {s s' : σ}
    {e : Error} :
    ¬Fails (pure a : ExceptT Error (StateM σ) α) s e s' := by
  intro hFails
  cases hFails

theorem not_fails_lift
    {x : StateM σ α}
    {s s' : σ}
    {e : Error} :
    ¬Fails (liftM x : ExceptT Error (StateM σ) α) s e s' := by
  intro hFails
  cases hFails

theorem fails_throw_iff
    {e e' : Error}
    {s s' : σ} :
    Fails (throw e : ExceptT Error (StateM σ) α) s e' s' ↔
      e = e' ∧ s = s' := by
  have hRun : (throw e : ExceptT Error (StateM σ) α).run.run s =
      (.error e, s) :=
    rfl
  unfold Fails
  rw [hRun, Prod.mk.injEq, Except.error.injEq]

theorem fails_ofExcept_iff
    {x : Except Error α}
    {e : Error}
    {s s' : σ} :
    Fails (MonadExcept.ofExcept x : ExceptT Error (StateM σ) α) s e s' ↔
      x = .error e ∧ s = s' := by
  cases x with
  | error e' =>
    rw [Except.error.injEq]
    exact fails_throw_iff
  | ok a =>
    constructor
    · intro hFails
      exact absurd hFails not_fails_pure
    · intro hError
      cases hError.1

/- A computation that can be seen to fail fails with what is seen. -/
theorem exists_fails_and
    {x : ExceptT Error (StateM σ) α}
    {s : σ}
    {p : Error → σ → Prop}
    [∀ e s', Decidable (p e s')]
    (hRun : (match x.run.run s with
      | (.ok _, _) => false
      | (.error e, s') => decide (p e s')) = true) :
    ∃ e s', Fails x s e s' ∧ p e s' := by
  unfold Fails
  rcases hPair : x.run.run s with ⟨e | a, s'⟩ <;> rw [hPair] at hRun
  · exact ⟨e, s', rfl, of_decide_eq_true hRun⟩
  · cases hRun

/- The state that a failure leaves is the one that was there. -/
theorem Keeps.eq_of_fails
    {x : ExceptT Error (StateM σ) α}
    (hKeeps : Keeps x)
    {s s' : σ}
    {e : Error}
    (hFails : Fails x s e s') :
    s' = s := by
  have hState := hKeeps s
  rw [hFails] at hState
  exact hState

/- A call fails as its run does, but for what is noted of it. -/
theorem fails_generate_iff
    [Workspace (StateM σ)]
    [Journal (StateM σ)]
    {request : Request}
    {c : Config}
    {s s' : σ}
    {e : Error} :
    Fails (generate request c) s e s' ↔
      ∃ s₁, Fails (run request c) s e s₁ ∧
        s' = ((Journal.note (.failed e.message) : StateM σ Unit).run
          s₁).2 := by
  unfold Fails
  rw [run_generate]
  rcases (run request c : ExceptT Error (StateM σ) Report).run.run s with
    ⟨e' | r, s₁⟩
  · constructor
    · intro hFails
      cases hFails
      exact ⟨s₁, rfl, rfl⟩
    · rintro ⟨s₂, hRun, hNote⟩
      cases hRun
      rw [hNote]
  · constructor
    · intro hFails
      cases hFails
    · rintro ⟨s₂, hRun, -⟩
      cases hRun

end Generation

end ResourcePack

------------------------------------------------------------
-- Outputs
------------------------------------------------------------

namespace ResourcePack

theorem Store.eq_of_write_error
    {s s' : Store}
    {path text : String}
    {fault : FileFault}
    (hWrite : s.write path text = (.error fault, s')) :
    s' = s := by
  unfold write save update at hWrite
  cases hLocate : s.locate .creating path with
  | error other =>
    rw [hLocate] at hWrite
    exact (Prod.mk.inj hWrite).2.symm
  | ok l =>
    simp only [hLocate] at hWrite
    split at hWrite
    · exact (Prod.mk.inj hWrite).2.symm
    · cases hWrite
    · exact (Prod.mk.inj hWrite).2.symm
    · cases hWrite
    · cases hWrite

namespace Generation

theorem returns_write_store_iff
    {path text : String}
    {s s' : Store} :
    Returns (write path text) s () s' ↔ s.write path text = (.ok (), s') := by
  refine ⟨write_of_returns, ?_⟩
  intro hWrite
  exact returns_write_iff.mpr ⟨s', hWrite, rfl⟩

theorem fails_write_iff
    {path text : String}
    {s s' : Store}
    {e : Error} :
    Fails (write path text) s e s' ↔
      ∃ fault, s.write path text = (.error fault, s') ∧
        e = .file path fault := by
  constructor
  · intro hFails
    rcases fails_bind_iff.mp hFails with hLift | ⟨result, s₁, hWrite, hAfter⟩
    · exact absurd hLift not_fails_lift
    · cases result with
      | ok u => exact absurd hAfter not_fails_lift
      | error fault =>
        rcases fails_throw_iff.mp hAfter with ⟨hError, hSame⟩
        rw [hSame] at hWrite
        exact ⟨fault, returns_lift_iff.mp hWrite, hError.symm⟩
  · rintro ⟨fault, hWrite, rfl⟩
    exact fails_bind_iff.mpr (Or.inr
      ⟨.error fault, s', returns_lift_iff.mpr hWrite,
        fails_throw_iff.mpr ⟨rfl, rfl⟩⟩)

/-
  A run that can begin to write: its configuration is accepted, and
  there is a resource for every name of the request, found in the
  store and inserted into the bundle.
-/
structure Ready
    (request : Request)
    (c : Config)
    (s : Store)
    (o : HeaderOptions)
    (b : Bundle) : Prop where
  valid : c.validate = .ok ()
  options : c.headerOptions = .ok o
  resolved : Returns (Resource.resolveAll c.symbolPrefix c.search c.policy
    request.resources) s b.resources s
  inserted : Bundle.ofResources b.resources c.policy = .ok b

/- The directories of a resource that is inserted give namespaces. -/
theorem exists_scopeOf_of_insert
    {policy : Policy}
    {b b' : Bundle}
    {r : Resource}
    (hInsert : b.insert r policy = .ok b') :
    ∃ scope, Bundle.scopeOf r.name policy = .ok scope := by
  unfold Bundle.insert at hInsert
  cases hSymbol : b.position? r.symbol with
  | some i =>
    rw [hSymbol] at hInsert
    cases hInsert
  | none =>
    cases hScope : Bundle.scopeOf r.name policy with
    | error e =>
      rw [hSymbol, hScope] at hInsert
      cases hInsert
    | ok scope => exact ⟨scope, rfl⟩

/- Resources that can be inserted are inserted, and the store is left. -/
theorem returns_insertAll_of_ok
    {policy : Policy}
    {b b' : Bundle}
    {rs : List Resource}
    (hInsert : b.insertAll policy rs = .ok b')
    (s : Store) :
    Returns (insertAll policy b rs) s b' s := by
  induction rs generalizing b with
  | nil =>
    cases hInsert
    exact returns_pure_iff.mpr ⟨rfl, rfl⟩
  | cons r rest ih =>
    rw [Bundle.insertAll] at hInsert
    cases hFirst : b.insert r policy with
    | error e =>
      rw [hFirst] at hInsert
      cases hInsert
    | ok b₁ =>
      rw [hFirst] at hInsert
      rcases exists_scopeOf_of_insert hFirst with ⟨scope, hScope⟩
      exact returns_insertAll_cons_iff.mpr
        ⟨b₁, scope, s, hFirst, hScope, returns_lift_iff.mpr rfl,
          ih hInsert⟩

/- A run that is ready has its bundle. -/
theorem ready_iff
    {request : Request}
    {c : Config}
    {s : Store}
    {o : HeaderOptions}
    {b : Bundle} :
    Ready request c s o b ↔
      c.validate = .ok () ∧ c.headerOptions = .ok o ∧
        Returns (bundle request.resources c) s b s := by
  constructor
  · intro hReady
    refine ⟨hReady.valid, hReady.options, ?_⟩
    exact returns_bundle_iff.mpr
      ⟨b.resources, s, hReady.resolved,
        returns_insertAll_of_ok hReady.inserted s⟩
  · rintro ⟨hConfig, hOptions, hBundle⟩
    rcases returns_bundle_iff.mp hBundle with ⟨rs, s₁, hResolve, hInsert⟩
    have hMade : Bundle.ofResources rs c.policy = .ok b :=
      insertAll_of_returns hInsert
    have hKept := (Resource.keeps_resolveAll _ _ _ _).eq_of_returns hResolve
    have hResources := Bundle.resources_ofResources hMade
    subst hKept hResources
    exact ⟨hConfig, hOptions, hResolve, hMade⟩

end Generation

end ResourcePack

------------------------------------------------------------
-- Failures
------------------------------------------------------------

namespace ResourcePack

namespace Generation

variable {request : Request} {c : Config} {s s' : Store} {e : Error}

/-
  The fault of a run that was ready to write but could not write
  one of its two files, and the store that is left.
-/
inductive OutputFault
    (request : Request)
    (c : Config)
    (s : Store) : Error → Store → Prop where
  | asm
      {o : HeaderOptions}
      {b : Bundle}
      {fault : FileFault}
      {s' : Store}
      (hReady : Ready request c s o b)
      (hAsm : s.write request.asm (Assembly.render b.resources c.align) =
        (.error fault, s')) :
      OutputFault request c s (.file request.asm fault) s'
  | header
      {o : HeaderOptions}
      {b : Bundle}
      {fault : FileFault}
      {s₁ s' : Store}
      (hReady : Ready request c s o b)
      (hAsm : s.write request.asm (Assembly.render b.resources c.align) =
        (.ok (), s₁))
      (hHeader : s₁.write request.header (Header.render b o) =
        (.error fault, s')) :
      OutputFault request c s (.file request.header fault) s'

theorem ready_of_returns
    {r : Report}
    (hReturns : Returns (run request c) s r s') :
    ∃ o b, Ready request c s o b := by
  rcases returns_run_iff.mp hReturns with
    ⟨o, b, s₁, s₂, s₃, hConfig, hOptions, hBundle, -⟩
  have hKept := (keeps_bundle _ _).eq_of_returns hBundle
  subst hKept
  exact ⟨o, b, ready_iff.mpr ⟨hConfig, hOptions, hBundle⟩⟩

/-
  A run fails before it is ready, and leaves the store as it is, or
  one of its files cannot be written.
-/
theorem fails_run
    (hFails : Fails (run request c) s e s') :
    ((∀ o b, ¬Ready request c s o b) ∧ s' = s) ∨
      OutputFault request c s e s' := by
  unfold run at hFails
  rcases fails_bind_iff.mp hFails with hRefused | ⟨_, s₁, hStep, hAfter⟩
  · rcases fails_ofExcept_iff.mp hRefused with ⟨hRefused, hSame⟩
    refine Or.inl ⟨?_, hSame.symm⟩
    intro o b hReady
    rw [hReady.valid] at hRefused
    cases hRefused
  rcases returns_ofExcept_iff.mp hStep with ⟨hConfig, hSame₁⟩
  rcases fails_bind_iff.mp hAfter with hRefused | ⟨o, s₂, hStep, hAfter⟩
  · rcases fails_ofExcept_iff.mp hRefused with ⟨hRefused, hSame⟩
    refine Or.inl ⟨?_, (hSame₁.trans hSame).symm⟩
    intro o b hReady
    rw [hReady.options] at hRefused
    cases hRefused
  rcases returns_ofExcept_iff.mp hStep with ⟨hOptions, hSame₂⟩
  rw [← hSame₂, ← hSame₁] at hAfter
  rcases fails_bind_iff.mp hAfter with hRefused | ⟨b, s₃, hBundle, hAfter⟩
  · refine Or.inl ⟨?_, (keeps_bundle _ _).eq_of_fails hRefused⟩
    intro o' b hReady
    cases hRefused.symm.trans (ready_iff.mp hReady).2.2
  -- from here on the run is ready, and only a write can fail
  have hKept := (keeps_bundle _ _).eq_of_returns hBundle
  rw [hKept] at hBundle hAfter
  have hReady : Ready request c s o b :=
    ready_iff.mpr ⟨hConfig, hOptions, hBundle⟩
  rcases fails_bind_iff.mp hAfter with hFault | ⟨_, s₄, hAsm, hAfter⟩
  · rcases fails_write_iff.mp hFault with ⟨fault, hWrite, rfl⟩
    exact Or.inr (.asm hReady hWrite)
  rcases fails_bind_iff.mp hAfter with hFault | ⟨_, s₅, -, hAfter⟩
  · rcases fails_write_iff.mp hFault with ⟨fault, hWrite, rfl⟩
    exact Or.inr (.header hReady (returns_write_store_iff.mp hAsm) hWrite)
  rcases fails_bind_iff.mp hAfter with hNote | ⟨_, s₆, -, hDone⟩
  · exact absurd hNote not_fails_lift
  · exact absurd hDone not_fails_pure

/- A run that is ready fails with the fault of its assembly file. -/
theorem fails_run_of_asm
    {o : HeaderOptions}
    {b : Bundle}
    {fault : FileFault}
    (hReady : Ready request c s o b)
    (hAsm : s.write request.asm (Assembly.render b.resources c.align) =
      (.error fault, s')) :
    Fails (run request c) s (.file request.asm fault) s' := by
  unfold run
  rcases ready_iff.mp hReady with ⟨hConfig, hOptions, hBundle⟩
  refine fails_bind_iff.mpr (Or.inr
    ⟨(), s, returns_ofExcept_iff.mpr ⟨hConfig, rfl⟩, ?_⟩)
  refine fails_bind_iff.mpr (Or.inr
    ⟨o, s, returns_ofExcept_iff.mpr ⟨hOptions, rfl⟩, ?_⟩)
  refine fails_bind_iff.mpr (Or.inr ⟨b, s, hBundle, ?_⟩)
  exact fails_bind_iff.mpr (Or.inl
    (fails_write_iff.mpr ⟨fault, hAsm, rfl⟩))

/- A call fails as its run does: a store keeps no notes. -/
theorem fails_generate_store_iff :
    Fails (generate request c) s e s' ↔ Fails (run request c) s e s' := by
  rw [fails_generate_iff]
  constructor
  · rintro ⟨s₁, hRun, hNote⟩
    rw [hNote]
    exact hRun
  · intro hRun
    exact ⟨s', hRun, rfl⟩

/-
  A run that fails leaves the store as it is, unless one of its two
  files could not be written, and also then if it was the assembly
  file.  A run that is not ready to write fails and leaves the store
  as it is: neither file is touched before every resource of the
  request is resolved and inserted.  The log does not go to a file in
  the store.
-/
theorem unchanged_on_failure
    (request : Request)
    (c : Config)
    (s : Store) :
    (∀ e s', Fails (generate request c) s e s' →
      ¬OutputFault request c s e s' → s' = s) ∧
      (∀ o b fault s', Ready request c s o b →
        s.write request.asm (Assembly.render b.resources c.align) =
          (.error fault, s') →
        Fails (generate request c) s (.file request.asm fault) s) ∧
      ((∀ o b, ¬Ready request c s o b) →
        ∃ e, Fails (generate request c) s e s) := by
  refine ⟨?_, ?_, ?_⟩
  · intro e s' hFails hNoFault
    rcases fails_run (fails_generate_store_iff.mp hFails) with
      ⟨-, hSame⟩ | hFault
    · exact hSame
    · exact absurd hFault hNoFault
  · intro o b fault s' hReady hAsm
    have hSame := Store.eq_of_write_error hAsm
    subst hSame
    exact fails_generate_store_iff.mpr (fails_run_of_asm hReady hAsm)
  · intro hNone
    rcases returns_or_fails (run request c) s with
      ⟨r, s', hReturns⟩ | ⟨e, s', hFails⟩
    · rcases ready_of_returns hReturns with ⟨o, b, hReady⟩
      exact absurd hReady (hNone o b)
    · rcases fails_run hFails with ⟨-, hSame⟩ | hFault
      · subst hSame
        exact ⟨e, fails_generate_store_iff.mpr hFails⟩
      · cases hFault with
        | asm hReady hAsm => exact absurd hReady (hNone _ _)
        | header hReady hAsm hHeader => exact absurd hReady (hNone _ _)

/-
  A second name that is not there and an assembly file in a
  directory that is not there leave the store; a header that cannot
  be written leaves the assembly file behind.
-/
theorem unchanged_on_failure_sample :
    (∃ s', Fails (generate ⟨["a.bin", "b.bin"], "o.s", "o.h"⟩ sampleConfig)
        sampleStore (.resourceNotFound "b.bin" ["."]) s' ∧
      s' = sampleStore) ∧
      Fails (generate ⟨["a.bin"], "no/o.s", "o.h"⟩ sampleConfig)
        sampleStore (.file "no/o.s" .notFound) sampleStore ∧
      (∃ e, Fails (generate ⟨["a.bin", "b.bin"], "o.s", "o.h"⟩ sampleConfig)
        sampleStore e sampleStore) ∧
      ∃ e s', Fails (generate ⟨["a.bin"], "o.s", "no/o.h"⟩ sampleConfig)
        sampleStore e s' ∧
        e = .file "no/o.h" .notFound ∧ s' ≠ sampleStore := by
  have hMissing : ∃ e s', Fails
      (generate ⟨["a.bin", "b.bin"], "o.s", "o.h"⟩ sampleConfig)
        sampleStore e s' ∧ e = .resourceNotFound "b.bin" ["."] := by
    apply exists_fails_and
    decide +kernel
  rcases hMissing with ⟨e, s', hMissing, rfl⟩
  have hNoFault : ¬OutputFault ⟨["a.bin", "b.bin"], "o.s", "o.h"⟩
      sampleConfig sampleStore (.resourceNotFound "b.bin" ["."]) s' :=
    nofun
  have hNone : ∀ o b, ¬Ready ⟨["a.bin", "b.bin"], "o.s", "o.h"⟩
      sampleConfig sampleStore o b := by
    rcases fails_run (fails_generate_store_iff.mp hMissing) with
      ⟨hNone, -⟩ | hFault
    · exact hNone
    · exact absurd hFault hNoFault
  have hBundle : ∃ (b : Bundle) (s' : Store),
      Returns (bundle ["a.bin"] sampleConfig) sampleStore b s' ∧
        s' = sampleStore := by
    apply exists_returns_and
    decide +kernel
  rcases hBundle with ⟨b, _, hBundle, rfl⟩
  have hReady : Ready ⟨["a.bin"], "no/o.s", "o.h"⟩ sampleConfig sampleStore
      ⟨"resource", "_GENERATED_RESOURCES_H", [], "R", .insertion⟩ b :=
    ready_iff.mpr ⟨by decide +kernel, by decide +kernel, hBundle⟩
  have hLocate : sampleStore.locate .creating "no/o.s" =
      .error .notFound := by
    decide +kernel
  have hAsm : sampleStore.write "no/o.s"
      (Assembly.render b.resources sampleConfig.align) =
        (.error .notFound, sampleStore) := by
    simp only [Store.write, Store.save, Store.update, hLocate]
  refine ⟨⟨s', hMissing, ?_⟩, ?_, ?_, ?_⟩
  · exact (unchanged_on_failure _ _ _).1 _ _ hMissing hNoFault
  · exact (unchanged_on_failure _ _ _).2.1 _ b _ _ hReady hAsm
  · exact (unchanged_on_failure _ _ _).2.2 hNone
  · apply exists_fails_and
    decide +kernel

end Generation

end ResourcePack
