import ResourcePack.Proofs.Generation.Run
import ResourcePack.Proofs.Store.Writing

/-
  The files of a store that resources stand for.

  Key definitions include:
    * `ResourcePack.Generation.Keeps`
    * `ResourcePack.Store.firstFile?`
    * `ResourcePack.Resource.StandsFor`

  Main declarations:
    * `ResourcePack.Generation.keeps_bundle`
    * `ResourcePack.Resource.returns_find_store_iff`
    * `ResourcePack.Resource.returns_describe_store_iff`
    * `ResourcePack.Resource.standsFor_of_resolve`
    * `ResourcePack.Generation.standsFor_of_bundle`

  Up to the point where its files are written a run only looks at
  the store.  Each of its resources stands for the first regular
  file of its name in the search directories.
-/

------------------------------------------------------------
-- Looking
------------------------------------------------------------

namespace ResourcePack

namespace Generation

variable {σ α β : Type}

/- However it ends, a computation leaves every state as it is. -/
def Keeps
    (x : ExceptT Error (StateM σ) α) : Prop :=
  ∀ s, (x.run.run s).2 = s

theorem Keeps.eq_of_returns
    {x : ExceptT Error (StateM σ) α}
    (hKeeps : Keeps x)
    {s s' : σ}
    {a : α}
    (hReturns : Returns x s a s') :
    s' = s := by
  have hState := hKeeps s
  rw [hReturns] at hState
  exact hState

/- Two steps leave the state if each of them does. -/
theorem keeps_bind
    {x : ExceptT Error (StateM σ) α}
    {f : α → ExceptT Error (StateM σ) β}
    (hFirst : Keeps x)
    (hSecond : ∀ a, Keeps (f a)) :
    Keeps (x >>= f) := by
  intro s
  have hState := hFirst s
  rw [run_bind]
  rcases hPair : x.run.run s with ⟨e | a, s'⟩
  · rw [hPair] at hState
    exact hState
  · rw [hPair] at hState
    exact (hSecond a s').trans hState

theorem keeps_pure
    (a : α) :
    Keeps (pure a : ExceptT Error (StateM σ) α) :=
  fun _ => rfl

theorem keeps_throw
    (e : Error) :
    Keeps (throw e : ExceptT Error (StateM σ) α) :=
  fun _ => rfl

theorem keeps_ofExcept
    (x : Except Error α) :
    Keeps (MonadExcept.ofExcept x : ExceptT Error (StateM σ) α) := by
  cases x <;> exact fun _ => rfl

/- What is asked of the state alone leaves it if the question does. -/
theorem keeps_lift
    {x : StateM σ α}
    (hKeeps : ∀ s, (x.run s).2 = s) :
    Keeps (liftM x : ExceptT Error (StateM σ) α) :=
  hKeeps

end Generation

end ResourcePack

------------------------------------------------------------
-- Resources
------------------------------------------------------------

namespace ResourcePack

/- The path of a name in the first directory that has it as a file. -/
def Store.firstFile?
    (s : Store)
    (name : String)
    (directories : List String) : Option String :=
  (directories.map (Path.join · name)).find? s.isFile

namespace Resource

open Generation

/- A name is looked for without a change of the store. -/
theorem run_firstFile?
    (s : Store)
    (name : String)
    (directories : List String) :
    (firstFile? name directories : StateM Store (Option String)).run s =
      (s.firstFile? name directories, s) := by
  induction directories with
  | nil => rfl
  | cons directory rest ih =>
    have hStep : (firstFile? name (directory :: rest) :
        StateM Store (Option String)).run s =
          (if s.isFile (Path.join directory name) = true then
            pure (some (Path.join directory name))
          else
            firstFile? name rest : StateM Store (Option String)).run s :=
      rfl
    rw [hStep, Store.firstFile?, List.map_cons, List.find?_cons]
    cases s.isFile (Path.join directory name) with
    | true => rfl
    | false => exact ih

/-
  A resource stands for a file: the first regular file of its name
  in the search directories, with its location and its size.
-/
structure StandsFor
    (s : Store)
    (directories : List String)
    (r : Resource)
    (l : Location)
    (contents : ByteArray) : Prop where
  found : ∃ path, s.firstFile? r.name directories = some path ∧
    s.find path = .ok (l, .file contents)
  path : r.path = Path.ofNames l
  size : r.size = contents.size

/- To describe a file is to look at it. -/
theorem keeps_describe
    (symbolPrefix name path : String)
    (policy : Policy) :
    Keeps (describe symbolPrefix name path policy :
      ExceptT Error (StateM Store) Resource) := by
  refine keeps_bind (keeps_lift fun _ => rfl) ?_
  intro size
  cases size with
  | error fault => cases fault <;> exact keeps_throw _
  | ok size =>
    cases Path.fileName? name with
    | none => exact keeps_throw _
    | some fileName =>
      refine keeps_bind (keeps_ofExcept _) fun symbol => ?_
      refine keeps_bind (keeps_ofExcept _) fun ident => ?_
      refine keeps_bind (keeps_lift fun _ => rfl) fun canonical => ?_
      cases canonical with
      | error fault => exact keeps_throw _
      | ok canonical => exact keeps_pure _

theorem keeps_find
    (name : String)
    (directories : List String) :
    Keeps (find name directories :
      ExceptT Error (StateM Store) String) := by
  refine keeps_bind (keeps_lift fun s => ?_) ?_
  · rw [run_firstFile?]
  · intro found
    cases found with
    | none => exact keeps_throw _
    | some path =>
      exact keeps_bind (keeps_lift fun _ => rfl) fun _ => keeps_pure _

theorem keeps_resolveAll
    (symbolPrefix : String)
    (directories : List String)
    (policy : Policy)
    (names : List String) :
    Keeps (resolveAll symbolPrefix directories policy names :
      ExceptT Error (StateM Store) (List Resource)) := by
  induction names with
  | nil => exact keeps_pure _
  | cons name rest ih =>
    refine keeps_bind ?_ fun r => ?_
    · exact keeps_bind (keeps_find _ _) fun _ => keeps_describe _ _ _ _
    · exact keeps_bind ih fun others => keeps_pure _

/- The first file of a name is a regular file. -/
theorem file_of_firstFile?
    {s : Store}
    {name path : String}
    {directories : List String}
    (hFirst : s.firstFile? name directories = some path) :
    ∃ l contents, s.find path = .ok (l, .file contents) :=
  Store.isFile_iff.mp (List.find?_some hFirst)

/- In a store, the first file of a name is found. -/
theorem returns_find_store_iff
    {s s' : Store}
    {name path : String}
    {directories : List String} :
    Returns (find name directories) s path s' ↔
      s' = s ∧ s.firstFile? name directories = some path := by
  constructor
  · intro hReturns
    refine ⟨(keeps_find name directories).eq_of_returns hReturns, ?_⟩
    rcases returns_bind_iff.mp hReturns with ⟨found, s₁, hFound, hAfter⟩
    rw [returns_lift_iff, run_firstFile?, Prod.mk.injEq] at hFound
    rw [hFound.1]
    cases found with
    | none => exact absurd hAfter not_returns_throw
    | some found =>
      rcases returns_bind_iff.mp hAfter with ⟨_, _, -, hAfter⟩
      rw [(returns_pure_iff.mp hAfter).1]
  · rintro ⟨rfl, hFirst⟩
    refine returns_bind_iff.mpr ⟨some path, s', ?_, ?_⟩
    · rw [returns_lift_iff, run_firstFile?, hFirst]
    · exact returns_bind_iff.mpr
        ⟨(), s', returns_lift_iff.mpr rfl, returns_pure_iff.mpr ⟨rfl, rfl⟩⟩

/-
  In a store, a resource is described by the location and the length
  of its file; its names do not depend on the store.
-/
theorem returns_describe_store_iff
    {symbolPrefix name path : String}
    {contents : ByteArray}
    {policy : Policy}
    {s s' : Store}
    {r : Resource}
    {l : Location}
    (hFile : s.find path = .ok (l, .file contents)) :
    Returns (describe symbolPrefix name path policy) s r s' ↔
      s' = s ∧ ∃ fileName symbol ident,
        Path.fileName? name = some fileName ∧
          Identifier.symbol symbolPrefix name policy = .ok symbol ∧
          Identifier.ofFileName fileName policy = .ok ident ∧
          r = ⟨symbolPrefix, name, Path.ofNames l,
            contents.size, symbol, ident⟩ := by
  have hSize : s.size path = .ok contents.size := by
    rw [Store.size, hFile]
    rfl
  have hCanonical : s.canonical path = .ok (Path.ofNames l) := by
    rw [Store.canonical, hFile]
    rfl
  rw [returns_describe_iff]
  constructor
  · rintro ⟨size, fileName, symbol, ident, canonical, s₁, hSizeRun, hName,
      hSymbol, hIdent, hCanonicalRun, hResource⟩
    rcases Prod.mk.inj hSizeRun with ⟨hSizeOk, rfl⟩
    rcases Prod.mk.inj hCanonicalRun with ⟨hCanonicalOk, rfl⟩
    cases hSize.symm.trans hSizeOk
    cases hCanonical.symm.trans hCanonicalOk
    exact ⟨rfl, fileName, symbol, ident, hName, hSymbol, hIdent, hResource⟩
  · rintro ⟨rfl, fileName, symbol, ident, hName, hSymbol, hIdent,
      hResource⟩
    exact ⟨_, fileName, symbol, ident, _, s', Prod.ext hSize rfl, hName,
      hSymbol, hIdent, Prod.ext hCanonical rfl, hResource⟩

/- A name that is resolved gives a resource that stands for a file. -/
theorem standsFor_of_resolve
    {symbolPrefix name : String}
    {directories : List String}
    {policy : Policy}
    {s s' : Store}
    {r : Resource}
    (hReturns : Returns (resolve symbolPrefix directories policy name)
      s r s') :
    r.name = name ∧ ∃ l contents, StandsFor s directories r l contents := by
  rcases returns_resolve_iff.mp hReturns with ⟨path, s₁, hFind, hDescribe⟩
  rcases returns_find_store_iff.mp hFind with ⟨rfl, hFirst⟩
  rcases file_of_firstFile? hFirst with ⟨l, contents, hFile⟩
  rcases (returns_describe_store_iff hFile).mp hDescribe with
    ⟨-, _, _, _, -, -, -, rfl⟩
  exact ⟨rfl, l, contents, ⟨path, hFirst, hFile⟩, rfl, rfl⟩

/- Resolved names give resources that stand for files, in their order. -/
theorem standsFor_of_resolveAll
    {symbolPrefix : String}
    {directories names : List String}
    {policy : Policy}
    {s s' : Store}
    {rs : List Resource}
    (hReturns : Returns (resolveAll symbolPrefix directories policy names)
      s rs s') :
    rs.map Resource.name = names ∧
      ∀ r ∈ rs, ∃ l contents, StandsFor s directories r l contents := by
  induction names generalizing s s' rs with
  | nil =>
    rcases returns_pure_iff.mp hReturns with ⟨hNil, -⟩
    rw [← hNil]
    exact ⟨rfl, nofun⟩
  | cons name rest ih =>
    rcases returns_resolveAll_cons_iff.mp hReturns with
      ⟨r, others, s₁, hFirst, hRest, hList⟩
    have hKept : s₁ = s :=
      (keeps_bind (keeps_find _ _) fun _ =>
        keeps_describe _ _ _ _).eq_of_returns hFirst
    rw [hKept] at hRest
    rcases standsFor_of_resolve hFirst with ⟨hName, hStands⟩
    rcases ih hRest with ⟨hNames, hOthers⟩
    rw [hList, List.map_cons, hName, hNames, List.forall_mem_cons]
    exact ⟨rfl, hStands, hOthers⟩

end Resource

end ResourcePack

------------------------------------------------------------
-- Bundles
------------------------------------------------------------

namespace ResourcePack

namespace Generation

theorem keeps_note
    (e : Log.Event) :
    Keeps (note e : ExceptT Error (StateM Store) Unit) :=
  fun _ => rfl

theorem keeps_insertAll
    (policy : Policy)
    (b : Bundle)
    (rs : List Resource) :
    Keeps (insertAll policy b rs :
      ExceptT Error (StateM Store) Bundle) := by
  induction rs generalizing b with
  | nil => exact keeps_pure _
  | cons r rest ih =>
    refine keeps_bind (keeps_ofExcept _) fun b' => ?_
    refine keeps_bind (keeps_ofExcept _) fun scope => ?_
    exact keeps_bind (keeps_note _) fun _ => ih b'

theorem keeps_bundle
    (names : List String)
    (c : Config) :
    Keeps (bundle names c : ExceptT Error (StateM Store) Bundle) :=
  keeps_bind (Resource.keeps_resolveAll _ _ _ _) fun _ =>
    keeps_insertAll _ _ _

/- The bundle of a run has a resource for each name, and its file. -/
theorem standsFor_of_bundle
    {names : List String}
    {c : Config}
    {b : Bundle}
    {s s' : Store}
    (hReturns : Returns (bundle names c) s b s') :
    b.resources.map Resource.name = names ∧
      ∀ r ∈ b.resources, ∃ l contents,
        Resource.StandsFor s c.search r l contents := by
  rcases returns_bundle_iff.mp hReturns with ⟨rs, s₁, hResolve, hInsert⟩
  have hBundle : Bundle.ofResources rs c.policy = .ok b :=
    insertAll_of_returns hInsert
  rw [Bundle.resources_ofResources hBundle]
  exact Resource.standsFor_of_resolveAll hResolve

end Generation

end ResourcePack
