import ResourcePack.Proofs.Bundle.Nodes
import ResourcePack.Proofs.Steps

/-
  Which lists of resources make a bundle.

  Key definitions include:
    * `ResourcePack.Bundle.fullName`
    * `ResourcePack.Bundle.ConflictFree`
    * `ResourcePack.Bundle.Accepts`

  Main declarations:
    * `ResourcePack.Bundle.separate_iff_conflictFree`
    * `ResourcePack.Bundle.accepts_iff_conflictFree`

  Insertion decides step by step, against what is there already.
  All in all it accepts the lists without a conflict between any
  two positions, so that the order of a list does not matter and
  leaving resources out does no harm.
-/

------------------------------------------------------------
-- Conflicts
------------------------------------------------------------

namespace ResourcePack

namespace Bundle

/- The namespaces of a resource, followed by its identifier. -/
def fullName
    (policy : Policy)
    (r : Resource) : Except Error (List String) :=
  (scopeOf r.name policy).map fun scope => scope ++ [r.ident]

/-
  A list of resources without conflicts: every directory gives a
  namespace, the symbols differ, no full name is a prefix of one at
  another position, and none begins with `externals`.
-/
structure ConflictFree
    (policy : Policy)
    (rs : List Resource) : Prop where
  directories : ∀ r ∈ rs, ∀ component ∈ Path.directories r.name,
    ∃ name, Identifier.ofDirectory component policy = .ok name
  symbols : (rs.map Resource.symbol).Nodup
  apart : rs.Pairwise fun r s =>
    ∀ full, fullName policy r = .ok full →
      ∀ full', fullName policy s = .ok full' → Apart full full'
  unreserved : ∀ r ∈ rs, ∀ full, fullName policy r = .ok full →
    full.head? ≠ some externalsName

/- Whether a list of resources makes a bundle. -/
def Accepts
    (policy : Policy)
    (rs : List Resource) : Prop :=
  ∃ b, ofResources rs policy = .ok b

theorem fullName_eq
    {policy : Policy}
    {r : Resource}
    (hScope : ∃ scope, scopeOf r.name policy = .ok scope) :
    fullName policy r = .ok (Placed.byName policy r).full := by
  rcases hScope with ⟨scope, hScope⟩
  rw [fullName, Placed.byName_eq hScope, hScope]
  rfl

/-
  Where all directories give namespaces, resources can be declared
  together exactly when they are free of conflicts.
-/
theorem separate_iff_conflictFree
    {policy : Policy}
    {rs : List Resource} :
    (∀ r ∈ rs, ∃ scope, scopeOf r.name policy = .ok scope) ∧
        Separate (rs.map (Placed.byName policy)) ↔
      ConflictFree policy rs := by
  have hSymbols :
      (rs.map (Placed.byName policy)).map (fun x => x.resource.symbol) =
        rs.map Resource.symbol := by
    rw [List.map_map]
    apply List.map_congr_left
    intro r _
    rw [Function.comp_apply, Placed.byName_resource]
  constructor
  · rintro ⟨hScopes, hSeparate⟩
    constructor
    · intro r hMem
      exact mapM_isOk_iff.mp (hScopes r hMem)
    · rw [← hSymbols]
      exact hSeparate.distinct
    · apply (List.pairwise_map.mp hSeparate.apart).imp_of_mem
      intro r s hR hS hApart full hFull full' hFull'
      rw [fullName_eq (hScopes r hR), Except.ok.injEq] at hFull
      rw [fullName_eq (hScopes s hS), Except.ok.injEq] at hFull'
      rw [← hFull, ← hFull']
      exact hApart
    · intro r hMem full hFull
      rw [fullName_eq (hScopes r hMem), Except.ok.injEq] at hFull
      rw [← hFull]
      exact hSeparate.unreserved _ (List.mem_map_of_mem hMem)
  · intro hFree
    have hScopes : ∀ r ∈ rs, ∃ scope, scopeOf r.name policy = .ok scope := by
      intro r hMem
      exact mapM_isOk_iff.mpr (hFree.directories r hMem)
    refine ⟨hScopes, ?_, ?_, ?_⟩
    · rw [hSymbols]
      exact hFree.symbols
    · rw [List.pairwise_map]
      apply hFree.apart.imp_of_mem
      intro r s hR hS hApart
      exact hApart _ (fullName_eq (hScopes r hR)) _
        (fullName_eq (hScopes s hS))
    · intro x hMem
      rcases List.mem_map.mp hMem with ⟨r, hR, rfl⟩
      exact hFree.unreserved r hR _ (fullName_eq (hScopes r hR))

namespace ConflictFree

variable {policy : Policy} {rs rs' : List Resource}

/- The order of a list does not matter for its conflicts. -/
theorem perm
    (hPerm : rs.Perm rs')
    (hFree : ConflictFree policy rs) :
    ConflictFree policy rs' where
  directories r hMem := hFree.directories r (hPerm.mem_iff.mpr hMem)
  symbols := (hPerm.map Resource.symbol).nodup_iff.mp hFree.symbols
  apart := by
    apply hPerm.pairwise hFree.apart
    intro r s hApart full hFull full' hFull'
    exact (hApart full' hFull' full hFull).symm
  unreserved r hMem := hFree.unreserved r (hPerm.mem_iff.mpr hMem)

theorem sublist
    (hSub : rs'.Sublist rs)
    (hFree : ConflictFree policy rs) :
    ConflictFree policy rs' where
  directories r hMem := hFree.directories r (hSub.subset hMem)
  symbols := (hSub.map Resource.symbol).nodup hFree.symbols
  apart := hFree.apart.sublist hSub
  unreserved r hMem := hFree.unreserved r (hSub.subset hMem)

end ConflictFree

end Bundle

end ResourcePack

------------------------------------------------------------
-- Acceptance
------------------------------------------------------------

namespace ResourcePack

namespace Bundle

/- Insertion one by one accepts the lists without conflicts. -/
theorem accepts_iff
    {policy : Policy}
    {rs : List Resource} :
    Accepts policy rs ↔ ConflictFree policy rs := by
  rw [← separate_iff_conflictFree, Accepts, ofResources,
    holds_empty.insertAll_isOk_iff]
  rfl

/-
  A list makes a bundle exactly when it is free of conflicts; hence
  every order of it and every part of it does as well.
-/
theorem accepts_iff_conflictFree
    (policy : Policy)
    (rs : List Resource) :
    (Accepts policy rs ↔ ConflictFree policy rs) ∧
      (∀ rs', rs'.Perm rs →
        (Accepts policy rs' ↔ Accepts policy rs)) ∧
      ∀ rs', rs'.Sublist rs →
        Accepts policy rs → Accepts policy rs' := by
  refine ⟨accepts_iff, ?_, ?_⟩
  · intro rs' hPerm
    rw [accepts_iff, accepts_iff]
    exact ⟨ConflictFree.perm hPerm, ConflictFree.perm hPerm.symm⟩
  · intro rs' hSub hAccepts
    rw [accepts_iff] at hAccepts ⊢
    exact hAccepts.sublist hSub

end Bundle

end ResourcePack
