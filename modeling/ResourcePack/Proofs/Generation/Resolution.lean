import ResourcePack.Proofs.Bundle.Duplicates
import ResourcePack.Proofs.Generation.Failures

/-
  What names are resolved to, and how that fails.

  Key definitions include:
    * `ResourcePack.Store.FirstMatch`
    * `ResourcePack.Resource.MadeFrom`
    * `ResourcePack.Resource.Describes`
    * `ResourcePack.Resource.Fault`

  Main declarations:
    * `ResourcePack.Resource.returns_resolve_iff_describes`
    * `ResourcePack.Resource.fails_resolve_iff_fault`
    * `ResourcePack.Resource.returns_resolveAll_iff`
    * `ResourcePack.Resource.fails_resolveAll_iff`
    * `ResourcePack.Resource.resolves_first_match`

  Each name is resolved by itself, to the regular file at the first
  search directory that has one, or it has a fault.  A list is
  resolved name by name or not at all, with the first fault in it.
-/

------------------------------------------------------------
-- Failing Steps
------------------------------------------------------------

namespace ResourcePack

namespace Generation

variable {σ α β : Type}
variable {x : ExceptT Error (StateM σ) α}
variable {f : α → ExceptT Error (StateM σ) β}
variable {s s₁ s' : σ} {a : α} {e : Error}

theorem Returns.not_fails
    (hReturns : Returns x s a s₁) :
    ¬Fails x s e s' := by
  intro hFails
  cases hReturns.symm.trans hFails

/- Behind a step that returns, only the rest can fail. -/
theorem fails_bind_of_returns
    (hReturns : Returns x s a s₁) :
    Fails (x >>= f) s e s' ↔ Fails (f a) s₁ e s' := by
  rw [fails_bind_iff]
  constructor
  · rintro (hFails | ⟨a', s₂, hStep, hRest⟩)
    · exact absurd hFails hReturns.not_fails
    · cases hReturns.symm.trans hStep
      exact hRest
  · intro hRest
    exact Or.inr ⟨a, s₁, hReturns, hRest⟩

theorem fails_ofExcept_bind_iff
    {x : Except Error α} :
    Fails (MonadExcept.ofExcept x >>= f) s e s' ↔
      x = .error e ∧ s = s' ∨ ∃ a, x = .ok a ∧ Fails (f a) s e s' := by
  rw [fails_bind_iff, fails_ofExcept_iff]
  refine or_congr_right (exists_congr fun a => ?_)
  constructor
  · rintro ⟨s₁, hStep, hRest⟩
    rcases returns_ofExcept_iff.mp hStep with ⟨hOk, rfl⟩
    exact ⟨hOk, hRest⟩
  · rintro ⟨hOk, hRest⟩
    exact ⟨s, returns_ofExcept_iff.mpr ⟨hOk, rfl⟩, hRest⟩

end Generation

end ResourcePack

------------------------------------------------------------
-- First Matches
------------------------------------------------------------

namespace ResourcePack

namespace Store

/-
  The file of a name: there is one at a search directory, and no
  regular file at those before it.
-/
def FirstMatch
    (s : Store)
    (directories : List String)
    (name : String)
    (l : Location)
    (contents : ByteArray) : Prop :=
  ∃ before directory after, directories = before ++ directory :: after ∧
    (∀ d ∈ before, s.isFile (Path.join d name) = false) ∧
    s.find (Path.join directory name) = .ok (l, .file contents)

variable {s : Store} {directories : List String} {name : String}
variable {l : Location} {contents : ByteArray}

/- It is the one that is found from the first directory on. -/
theorem firstMatch_iff :
    s.FirstMatch directories name l contents ↔
      ∃ path, s.firstFile? name directories = some path ∧
        s.find path = .ok (l, .file contents) := by
  constructor
  · rintro ⟨before, directory, after, rfl, hBefore, hFind⟩
    refine ⟨_, List.find?_eq_some_iff_append.mpr
      ⟨isFile_iff.mpr ⟨l, contents, hFind⟩, before.map (Path.join · name),
        after.map (Path.join · name), ?_, ?_⟩, hFind⟩
    · rw [List.map_append, List.map_cons]
    · rw [List.forall_mem_map]
      intro d hMem
      rw [hBefore d hMem]
      rfl
  · rintro ⟨path, hFirst, hFind⟩
    rcases List.find?_eq_some_iff_append.mp hFirst with
      ⟨-, paths, rest, hPaths, hBefore⟩
    rcases List.map_eq_append_iff.mp hPaths with
      ⟨before, others, rfl, rfl, hOthers⟩
    rcases List.map_eq_cons_iff.mp hOthers with
      ⟨directory, after, rfl, rfl, -⟩
    refine ⟨before, directory, after, rfl, ?_, hFind⟩
    intro d hMem
    simpa using hBefore _ (List.mem_map_of_mem hMem)

theorem firstFile?_eq_none_iff :
    s.firstFile? name directories = none ↔
      ∀ d ∈ directories, s.isFile (Path.join d name) = false := by
  rw [firstFile?, List.find?_eq_none, List.forall_mem_map]
  simp

/- A file that is found stays the first with more directories behind. -/
theorem FirstMatch.append
    (hMatch : s.FirstMatch directories name l contents)
    (more : List String) :
    s.FirstMatch (directories ++ more) name l contents := by
  rcases hMatch with ⟨before, directory, after, rfl, hBefore, hFind⟩
  exact ⟨before, directory, after ++ more, by simp, hBefore, hFind⟩

end Store

end ResourcePack

------------------------------------------------------------
-- Resources of Names
------------------------------------------------------------

namespace ResourcePack

namespace Resource

open Generation Identifier

/- A resource whose symbol and identifier are those of its name. -/
structure MadeFrom
    (symbolPrefix : String)
    (policy : Policy)
    (r : Resource) : Prop where
  symbol : Identifier.symbol symbolPrefix r.name policy = .ok r.symbol
  ident : ∃ fileName, Path.fileName? r.name = some fileName ∧
    ofFileName fileName policy = .ok r.ident

section

variable {σ : Type} [Workspace (StateM σ)] [Journal (StateM σ)]

theorem madeFrom_of_resolveAll
    {symbolPrefix : String}
    {directories names : List String}
    {policy : Policy}
    {s s' : σ}
    {rs : List Resource}
    (hReturns : Returns (resolveAll symbolPrefix directories policy names)
      s rs s') :
    ∀ r ∈ rs, r.name ∈ names ∧ r.MadeFrom symbolPrefix policy := by
  induction names generalizing s rs with
  | nil =>
    rw [← (returns_pure_iff.mp hReturns).1]
    nofun
  | cons name rest ih =>
    rcases returns_resolveAll_cons_iff.mp hReturns with
      ⟨first, others, s₁, hFirst, hRest, rfl⟩
    rcases returns_resolve_iff.mp hFirst with ⟨path, s₂, -, hDescribe⟩
    rcases returns_describe_iff.mp hDescribe with
      ⟨_, fileName, _, _, _, _, -, hName, hSymbol, hIdent, -, rfl⟩
    rw [List.forall_mem_cons]
    refine ⟨⟨List.mem_cons_self, hSymbol, fileName, hName, hIdent⟩, ?_⟩
    intro r hMem
    exact ⟨List.mem_cons_of_mem name (ih hRest r hMem).1,
      (ih hRest r hMem).2⟩

end

/-
  A resource describes a name: it is made from it, and has the path
  and the length of the first file of that name.
-/
structure Describes
    (s : Store)
    (symbolPrefix : String)
    (directories : List String)
    (policy : Policy)
    (name : String)
    (r : Resource) : Prop where
  symbolPrefix_eq : r.symbolPrefix = symbolPrefix
  name_eq : r.name = name
  madeFrom : r.MadeFrom symbolPrefix policy
  file : ∃ l contents, s.FirstMatch directories name l contents ∧
    r.path = Path.ofNames l ∧ r.size = contents.size

/-
  What is wrong with a name: it has no file; or it has one, but no
  file name, no symbol or no identifier, in this order.
-/
inductive Fault
    (s : Store)
    (symbolPrefix : String)
    (directories : List String)
    (policy : Policy)
    (name : String) : Error → Prop where
  | missing
      (hNone : ∀ d ∈ directories, s.isFile (Path.join d name) = false) :
      Fault s symbolPrefix directories policy name
        (.resourceNotFound name directories)
  | unnamed
      (hFile : ∃ d ∈ directories, s.isFile (Path.join d name) = true)
      (hName : Path.fileName? name = none) :
      Fault s symbolPrefix directories policy name
        (.invalidIdentifier name .noFileName)
  | symbol
      {fileName : String}
      {e : Error}
      (hFile : ∃ d ∈ directories, s.isFile (Path.join d name) = true)
      (hName : Path.fileName? name = some fileName)
      (hSymbol : Identifier.symbol symbolPrefix name policy = .error e) :
      Fault s symbolPrefix directories policy name e
  | ident
      {fileName symbol : String}
      {e : Error}
      (hFile : ∃ d ∈ directories, s.isFile (Path.join d name) = true)
      (hName : Path.fileName? name = some fileName)
      (hSymbol : Identifier.symbol symbolPrefix name policy = .ok symbol)
      (hIdent : ofFileName fileName policy = .error e) :
      Fault s symbolPrefix directories policy name e

variable {symbolPrefix name : String} {directories names : List String}
variable {policy : Policy} {s s' : Store} {e : Error}

/- What cannot be made an identifier is told as such. -/
theorem sanitize_ne_resourceNotFound
    {text searched : String}
    {directories : List String} :
    sanitize policy text ≠ .error (.resourceNotFound searched directories) := by
  intro hError
  rcases Bundle.ofDirectory_eq_error hError with ⟨fault, hFault⟩
  cases hFault

/-
  A fault says that there is no such file exactly if there is none, and
  then it names all search directories.
-/
theorem Fault.resourceNotFound_iff
    (hFault : Fault s symbolPrefix directories policy name e) :
    ((∃ missing searched, e = .resourceNotFound missing searched) ↔
        ∀ d ∈ directories, s.isFile (Path.join d name) = false) ∧
      (e = .resourceNotFound name directories ↔
        ∀ d ∈ directories, s.isFile (Path.join d name) = false) := by
  have hFound : (∃ d ∈ directories, s.isFile (Path.join d name) = true) →
      ¬∀ d ∈ directories, s.isFile (Path.join d name) = false := by
    rintro ⟨d, hMem, hFile⟩ hNone
    rw [hNone d hMem] at hFile
    cases hFile
  cases hFault with
  | missing hNone => simpa using hNone
  | unnamed hFile hName => simp [hFound hFile]
  | symbol hFile hName hSymbol =>
    have hNot : ∀ missing searched,
        e ≠ .resourceNotFound missing searched := by
      rintro missing searched rfl
      exact sanitize_ne_resourceNotFound hSymbol
    simp [hFound hFile, hNot]
  | ident hFile hName hSymbol hIdent =>
    have hNot : ∀ missing searched,
        e ≠ .resourceNotFound missing searched := by
      rintro missing searched rfl
      exact sanitize_ne_resourceNotFound hIdent
    simp [hFound hFile, hNot]

/- A name is resolved to a resource that describes it. -/
theorem returns_resolve_iff_describes
    {r : Resource} :
    Returns (resolve symbolPrefix directories policy name) s r s' ↔
      s' = s ∧ Describes s symbolPrefix directories policy name r := by
  rw [returns_resolve_iff]
  constructor
  · rintro ⟨path, s₁, hFind, hDescribe⟩
    rcases returns_find_store_iff.mp hFind with ⟨rfl, hFirst⟩
    rcases file_of_firstFile? hFirst with ⟨l, contents, hFile⟩
    rcases (returns_describe_store_iff hFile).mp hDescribe with
      ⟨hSame, fileName, symbol, ident, hName, hSymbol, hIdent, rfl⟩
    exact ⟨hSame, rfl, rfl, ⟨hSymbol, fileName, hName, hIdent⟩, l, contents,
      Store.firstMatch_iff.mpr ⟨path, hFirst, hFile⟩, rfl, rfl⟩
  · rintro ⟨rfl, hDescribes⟩
    rcases hDescribes with ⟨hPrefix, hName, ⟨hSymbol, hIdent⟩, hFile⟩
    rcases hFile with ⟨l, contents, hMatch, hPath, hSize⟩
    rcases hIdent with ⟨fileName, hFileName, hIdent⟩
    rcases Store.firstMatch_iff.mp hMatch with ⟨path, hFirst, hFind⟩
    obtain ⟨_, _, _, _, symbol, ident⟩ := r
    subst hPrefix hName hPath hSize
    exact ⟨path, s', returns_find_store_iff.mpr ⟨rfl, hFirst⟩,
      (returns_describe_store_iff hFind).mpr
        ⟨rfl, fileName, symbol, ident, hFileName, hSymbol, hIdent, rfl⟩⟩

theorem fails_find_store_iff :
    Fails (find name directories) s e s' ↔
      s' = s ∧ s.firstFile? name directories = none ∧
        e = .resourceNotFound name directories := by
  unfold find
  rw [fails_bind_of_returns (returns_lift_iff.mpr
    (run_firstFile? s name directories))]
  cases s.firstFile? name directories with
  | none =>
    rw [fails_throw_iff]
    simp [and_comm, eq_comm]
  | some path =>
    -- a path is only noted and given back
    simp only [fails_bind_iff, not_fails_lift, not_fails_pure, and_false,
      exists_false, or_false, reduceCtorEq, false_and]

/-
  In a store, a file is not described for want of a file name, of a
  symbol or of an identifier, whichever is missed first.
-/
theorem fails_describe_store_iff
    {path : String}
    {contents : ByteArray}
    {l : Location}
    (hFile : s.find path = .ok (l, .file contents)) :
    Fails (describe symbolPrefix name path policy) s e s' ↔
      s' = s ∧
        (Path.fileName? name = none ∧
            e = .invalidIdentifier name .noFileName ∨
          ∃ fileName, Path.fileName? name = some fileName ∧
            (Identifier.symbol symbolPrefix name policy = .error e ∨
              ∃ symbol,
                Identifier.symbol symbolPrefix name policy = .ok symbol ∧
                  ofFileName fileName policy = .error e)) := by
  have hSize : (Workspace.size path : StateM Store _).run s =
      (.ok contents.size, s) := by
    refine Prod.ext ?_ rfl
    exact congrArg (Except.map fun found => found.2.size) hFile
  have hCanonical : (Workspace.canonical path : StateM Store _).run s =
      (.ok (Path.ofNames l), s) := by
    refine Prod.ext ?_ rfl
    exact congrArg (Except.map fun found => Path.ofNames found.1) hFile
  unfold describe
  rw [fails_bind_of_returns (returns_lift_iff.mpr hSize)]
  cases hName : Path.fileName? name with
  | none =>
    simp only [fails_throw_iff]
    simp [and_comm, eq_comm]
  | some fileName =>
    -- the file is there, so that it also has an absolute path
    simp only [fails_ofExcept_bind_iff,
      fails_bind_of_returns (returns_lift_iff.mpr hCanonical), not_fails_pure]
    constructor
    · rintro (⟨hSymbol, rfl⟩ | ⟨symbol, hSymbol, ⟨hIdent, rfl⟩ | ⟨_, -, ⟨⟩⟩⟩)
      · exact ⟨rfl, .inr ⟨fileName, rfl, .inl hSymbol⟩⟩
      · exact ⟨rfl, .inr ⟨fileName, rfl, .inr ⟨symbol, hSymbol, hIdent⟩⟩⟩
    · rintro ⟨rfl, ⟨⟨⟩, -⟩ | ⟨_, ⟨⟩, hSymbol | ⟨symbol, hSymbol, hIdent⟩⟩⟩
      · exact .inl ⟨hSymbol, rfl⟩
      · exact .inr ⟨symbol, hSymbol, .inl ⟨hIdent, rfl⟩⟩

theorem fails_resolve_iff_fault :
    Fails (resolve symbolPrefix directories policy name) s e s' ↔
      s' = s ∧ Fault s symbolPrefix directories policy name e := by
  unfold resolve
  rw [fails_bind_iff, fails_find_store_iff]
  cases hFirst : s.firstFile? name directories with
  | none =>
    have hNone := Store.firstFile?_eq_none_iff.mp hFirst
    constructor
    · rintro (⟨rfl, -, rfl⟩ | ⟨path, s₁, hFind, -⟩)
      · exact ⟨rfl, .missing hNone⟩
      · rw [returns_find_store_iff, hFirst] at hFind
        cases hFind.2
    · rintro ⟨rfl, hFault⟩
      exact .inl ⟨rfl, rfl, hFault.resourceNotFound_iff.2.mpr hNone⟩
  | some path =>
    have hFile : ∃ d ∈ directories, s.isFile (Path.join d name) = true := by
      by_contra hNot
      push Not at hNot
      rw [Store.firstFile?_eq_none_iff.mpr
        fun d hMem => Bool.eq_false_iff.mpr (hNot d hMem)] at hFirst
      cases hFirst
    rcases file_of_firstFile? hFirst with ⟨l, contents, hFind⟩
    constructor
    · rintro (⟨-, hNone, -⟩ | ⟨path', s₁, hFound, hDescribe⟩)
      · cases hNone
      · rw [returns_find_store_iff, hFirst, Option.some.injEq] at hFound
        rcases hFound with ⟨rfl, rfl⟩
        rcases (fails_describe_store_iff hFind).mp hDescribe with
          ⟨rfl, ⟨hName, rfl⟩ | ⟨fileName, hName, hSymbol |
            ⟨symbol, hSymbol, hIdent⟩⟩⟩
        · exact ⟨rfl, .unnamed hFile hName⟩
        · exact ⟨rfl, .symbol hFile hName hSymbol⟩
        · exact ⟨rfl, .ident hFile hName hSymbol hIdent⟩
    · rintro ⟨rfl, hFault⟩
      refine .inr ⟨path, s', returns_find_store_iff.mpr ⟨rfl, hFirst⟩, ?_⟩
      rw [fails_describe_store_iff hFind]
      refine ⟨rfl, ?_⟩
      cases hFault with
      | missing hNone =>
        rw [Store.firstFile?_eq_none_iff.mpr hNone] at hFirst
        cases hFirst
      | unnamed _ hName => exact .inl ⟨hName, rfl⟩
      | symbol _ hName hSymbol => exact .inr ⟨_, hName, .inl hSymbol⟩
      | ident _ hName hSymbol hIdent =>
        exact .inr ⟨_, hName, .inr ⟨_, hSymbol, hIdent⟩⟩

end Resource

end ResourcePack

------------------------------------------------------------
-- Lists of Names
------------------------------------------------------------

namespace ResourcePack

namespace Resource

open Generation

variable {symbolPrefix : String} {directories names : List String}
variable {policy : Policy} {s s' : Store} {rs : List Resource} {e : Error}

/- Names are resolved to resources that describe them, one by one. -/
theorem returns_resolveAll_iff :
    Returns (resolveAll symbolPrefix directories policy names) s rs s' ↔
      s' = s ∧ List.Forall₂
        (Describes s symbolPrefix directories policy) names rs := by
  induction names generalizing rs with
  | nil =>
    rw [resolveAll, returns_pure_iff, List.forall₂_nil_left_iff]
    exact ⟨fun h => ⟨h.2.symm, h.1.symm⟩, fun h => ⟨h.2.symm, h.1.symm⟩⟩
  | cons name rest ih =>
    rw [returns_resolveAll_cons_iff, List.forall₂_cons_left_iff]
    constructor
    · rintro ⟨r, others, s₁, hFirst, hRest, rfl⟩
      rcases returns_resolve_iff_describes.mp hFirst with ⟨rfl, hDescribes⟩
      rcases ih.mp hRest with ⟨rfl, hOthers⟩
      exact ⟨rfl, r, others, hDescribes, hOthers, rfl⟩
    · rintro ⟨rfl, r, others, hDescribes, hOthers, rfl⟩
      exact ⟨r, others, s',
        returns_resolve_iff_describes.mpr ⟨rfl, hDescribes⟩,
        ih.mpr ⟨rfl, hOthers⟩, rfl⟩

/- Names are not resolved with the fault of the first that has one. -/
theorem fails_resolveAll_iff :
    Fails (resolveAll symbolPrefix directories policy names) s e s' ↔
      s' = s ∧ ∃ before name after, names = before ++ name :: after ∧
        (∀ earlier ∈ before, ∃ r,
          Describes s symbolPrefix directories policy earlier r) ∧
        Fault s symbolPrefix directories policy name e := by
  induction names with
  | nil =>
    constructor
    · intro hFails
      exact absurd hFails not_fails_pure
    · rintro ⟨-, before, name, after, hNil, -⟩
      simp at hNil
  | cons first rest ih =>
    rw [resolveAll, fails_bind_iff, fails_resolve_iff_fault]
    constructor
    · rintro (⟨rfl, hFault⟩ | ⟨r, s₁, hFirst, hAfter⟩)
      · exact ⟨rfl, [], first, rest, rfl, nofun, hFault⟩
      · rcases returns_resolve_iff_describes.mp hFirst with
          ⟨rfl, hDescribes⟩
        rcases fails_bind_iff.mp hAfter with hRest | ⟨_, _, -, hDone⟩
        · rcases ih.mp hRest with
            ⟨rfl, before, name, after, rfl, hBefore, hFault⟩
          refine ⟨rfl, first :: before, name, after, rfl, ?_, hFault⟩
          rw [List.forall_mem_cons]
          exact ⟨⟨r, hDescribes⟩, hBefore⟩
        · exact absurd hDone not_fails_pure
    · rintro ⟨rfl, before, name, after, hNames, hBefore, hFault⟩
      cases before with
      | nil =>
        cases hNames
        exact .inl ⟨rfl, hFault⟩
      | cons earlier before =>
        cases hNames
        rw [List.forall_mem_cons] at hBefore
        rcases hBefore with ⟨⟨r, hDescribes⟩, hBefore⟩
        refine .inr ⟨r, s',
          returns_resolve_iff_describes.mpr ⟨rfl, hDescribes⟩, ?_⟩
        exact fails_bind_iff.mpr (Or.inl
          (ih.mpr ⟨rfl, before, name, after, rfl, hBefore, hFault⟩))

/- What describes a name does so with more directories behind. -/
theorem Describes.append
    {name : String}
    {r : Resource}
    (hDescribes : Describes s symbolPrefix directories policy name r)
    (more : List String) :
    Describes s symbolPrefix (directories ++ more) policy name r := by
  rcases hDescribes with ⟨hPrefix, hName, hMade, l, contents, hMatch, hFile⟩
  exact ⟨hPrefix, hName, hMade, l, contents, hMatch.append more, hFile⟩

/-
  In every store, names are resolved to one resource each, in their
  order, that describes the first regular file of the name in the
  search directories; an absolute name is the same in all of them.

  They are not resolved exactly if one of them has a fault, with that
  of the first of these; it says that there is no such file, and names
  all search directories, exactly if none of them has a regular file of
  that name.  The store is left as it is.  More directories behind the
  others never change what names are resolved to.
-/
theorem resolves_first_match
    (s : Store)
    (symbolPrefix : String)
    (directories : List String)
    (policy : Policy)
    (names : List String) :
    (∀ rs s', Returns (resolveAll symbolPrefix directories policy names)
        s rs s' ↔
      s' = s ∧ List.Forall₂
        (Describes s symbolPrefix directories policy) names rs) ∧
      (∀ directory name, Path.isAbsolute name = true →
        Path.join directory name = name) ∧
      (∀ e s', Fails (resolveAll symbolPrefix directories policy names)
          s e s' ↔
        s' = s ∧ ∃ before name after, names = before ++ name :: after ∧
          (∀ earlier ∈ before, ∃ r,
            Describes s symbolPrefix directories policy earlier r) ∧
          (∀ r, ¬Describes s symbolPrefix directories policy name r) ∧
          Fault s symbolPrefix directories policy name e) ∧
      (∀ name e, Fault s symbolPrefix directories policy name e →
        ((∃ missing searched, e = .resourceNotFound missing searched) ↔
            ∀ d ∈ directories, s.isFile (Path.join d name) = false) ∧
          (e = .resourceNotFound name directories ↔
            ∀ d ∈ directories, s.isFile (Path.join d name) = false)) ∧
      ∀ rs s' more,
        Returns (resolveAll symbolPrefix directories policy names)
            s rs s' →
          Returns (resolveAll symbolPrefix (directories ++ more) policy
            names) s rs s' := by
  refine ⟨fun _ _ => returns_resolveAll_iff, ?_, ?_, ?_, ?_⟩
  · intro directory name hAbsolute
    simp [Path.join, hAbsolute]
  · intro e s'
    rw [fails_resolveAll_iff]
    refine and_congr_right fun _ => exists_congr fun before =>
      exists_congr fun name => exists_congr fun after =>
      and_congr_right fun _ => and_congr_right fun _ => ?_
    refine ⟨fun hFault => ⟨?_, hFault⟩, And.right⟩
    -- a name is not both resolved and at fault
    intro r hDescribes
    exact (returns_resolve_iff_describes.mpr ⟨rfl, hDescribes⟩).not_fails
      (fails_resolve_iff_fault.mpr ⟨rfl, hFault⟩)
  · intro name e hFault
    exact hFault.resourceNotFound_iff
  · intro rs s' more hReturns
    rcases returns_resolveAll_iff.mp hReturns with ⟨hSame, hDescribes⟩
    exact returns_resolveAll_iff.mpr
      ⟨hSame, hDescribes.imp fun _ _ hEach => hEach.append more⟩

/-
  A store with two directories: the first has a file that is also in
  the second, and a directory by the name of a file there.
-/
def layeredStore : Store where
  entries := [
    (["w"], .directory), (["w", "a"], .directory),
    (["w", "b"], .directory), (["w", "a", "x"], .file "1".toByteArray),
    (["w", "b", "x"], .file "22".toByteArray), (["w", "a", "y"], .directory),
    (["w", "b", "y"], .file "333".toByteArray)]
  here := ["w"]

/-
  A file is taken from the first directory, one that is a directory
  there from the second, and an absolute one as it stands, also with
  the directories repeated.  The first of two bad names is at fault.
-/
theorem resolves_first_match_layered :
    Path.isAbsolute "/w/b/x" = true ∧
      Path.join "a" "/w/b/x" = "/w/b/x" ∧
      (∃ rs, rs.map (fun r => (r.path, r.size)) =
          [("/w/a/x", 1), ("/w/b/y", 3), ("/w/b/x", 2)] ∧
        Returns (resolveAll "" ["a", "b"] .reject ["x", "y", "/w/b/x"])
          layeredStore rs layeredStore ∧
        Returns (resolveAll "" (["a", "b"] ++ ["c", "a"]) .reject
          ["x", "y", "/w/b/x"]) layeredStore rs layeredStore) ∧
      Fails (resolveAll "" ["a", "b"] .reject ["x", "z", "a-b"])
        layeredStore (.resourceNotFound "z" ["a", "b"]) layeredStore ∧
      ∀ d ∈ ["a", "b"], layeredStore.isFile (Path.join d "z") = false := by
  have hNone : ∀ d ∈ ["a", "b"],
      layeredStore.isFile (Path.join d "z") = false := by
    decide +kernel
  have hFault : Fault layeredStore "" ["a", "b"] .reject "z"
      (.resourceNotFound "z" ["a", "b"]) :=
    .missing hNone
  have hFirst : ∃ (r : Resource) (s' : Store),
      Returns (resolve "" ["a", "b"] .reject "x") layeredStore r s' ∧
        s' = layeredStore := by
    apply exists_returns_and
    decide +kernel
  have hResolve : ∃ (rs : List Resource) (s' : Store),
      Returns (resolveAll "" ["a", "b"] .reject ["x", "y", "/w/b/x"])
          layeredStore rs s' ∧
        rs.map (fun r => (r.path, r.size)) =
          [("/w/a/x", 1), ("/w/b/y", 3), ("/w/b/x", 2)] := by
    apply exists_returns_and
    decide +kernel
  rcases hFirst with ⟨r, _, hFirst, rfl⟩
  rcases hResolve with ⟨rs, s', hResolve, hFiles⟩
  rcases resolves_first_match layeredStore "" ["a", "b"] .reject
    ["x", "y", "/w/b/x"] with ⟨hAll, hAbsolute, -, hMissing, hMore⟩
  rcases resolves_first_match layeredStore "" ["a", "b"] .reject
    ["x", "z", "a-b"] with ⟨-, -, hFails, -⟩
  obtain rfl := ((hAll rs s').mp hResolve).1
  have hDescribes := (returns_resolve_iff_describes.mp hFirst).2
  refine ⟨rfl, hAbsolute "a" "/w/b/x" rfl,
    ⟨rs, hFiles, hResolve, hMore rs _ ["c", "a"] hResolve⟩, ?_,
    (hMissing "z" _ hFault).2.mp rfl⟩
  refine (hFails _ _).mpr ⟨rfl, ["x"], "z", ["a-b"], rfl, ?_, ?_, hFault⟩
  · rw [List.forall_mem_singleton]
    exact ⟨r, hDescribes⟩
  · intro other hOther
    rcases hOther.file with ⟨_, _, hMatch, -⟩
    rcases Store.firstMatch_iff.mp hMatch with ⟨path, hFound, -⟩
    rw [Store.firstFile?_eq_none_iff.mpr hNone] at hFound
    cases hFound

end Resource

end ResourcePack
