import ResourcePack.Proofs.Bundle.Acceptance
import ResourcePack.Proofs.Identifier.Words

/-
  The names in a bundle.

  Key definitions include:
    * `ResourcePack.Resource.Sanitized`
    * `ResourcePack.Bundle.Named`

  Main declarations:
    * `ResourcePack.Bundle.named_ofResources`

  When the symbols and identifiers of resources come out of
  `sanitize`, every name of their bundle is a word, as directories
  are sanitized on insertion.
-/

------------------------------------------------------------
-- Sanitized Resources
------------------------------------------------------------

namespace ResourcePack

open Identifier

/- A resource whose symbol and identifier come out of `sanitize`. -/
structure Resource.Sanitized
    (r : Resource) : Prop where
  symbol : ∃ policy raw, sanitize policy raw = .ok r.symbol
  ident : ∃ policy raw, sanitize policy raw = .ok r.ident

namespace Bundle

open Directory

/-
  A bundle in which every name is a word: those of the namespaces,
  the symbols and the identifiers.
-/
structure Named
    (b : Bundle) : Prop where
  scopes : ∀ path d, At b.tree path d → ∀ name ∈ path, IsWord name
  symbols : ∀ r ∈ b.resources, IsWord r.symbol
  idents : ∀ r ∈ b.resources, IsWord r.ident

theorem mem_resources_of_mem_attached
    {b : Bundle}
    {d : Directory}
    {r : Resource}
    (hMem : r ∈ b.attached d) :
    r ∈ b.resources := by
  rcases List.mem_filterMap.mp hMem with ⟨i, -, hGet⟩
  exact List.mem_of_getElem? hGet

theorem isWord_of_mem_scope
    {name : String}
    {policy : Policy}
    {scope : List String}
    (hScope : scopeOf name policy = .ok scope) :
    ∀ component ∈ scope, IsWord component := by
  intro component hMem
  rcases exists_of_mem_mapM hScope hMem with ⟨directory, -, hSanitize⟩
  exact isWord_of_sanitize hSanitize

/- In a bundle of sanitized resources all names are words. -/
theorem named_ofResources
    {policy : Policy}
    {rs : List Resource}
    {b : Bundle}
    (hSanitized : ∀ r ∈ rs, r.Sanitized)
    (hBundle : ofResources rs policy = .ok b) :
    b.Named := by
  rcases holds_ofResources hBundle with ⟨hScopes, hHolds⟩
  have hResources : b.resources = rs := resources_ofResources hBundle
  constructor
  · intro path d hAt name hMem
    rcases hHolds.at_iff.mp ⟨d, hAt⟩ with hNil | ⟨x, hX, hPrefix⟩
    · rw [hNil] at hMem
      cases hMem
    · rcases List.mem_map.mp hX with ⟨r, hR, hPlaced⟩
      rw [← hPlaced] at hPrefix
      exact isWord_of_mem_scope (hScopes r hR) name
        (hPrefix.subset hMem)
  · intro r hMem
    rw [hResources] at hMem
    rcases (hSanitized r hMem).symbol with ⟨_, _, hSymbol⟩
    exact isWord_of_sanitize hSymbol
  · intro r hMem
    rw [hResources] at hMem
    rcases (hSanitized r hMem).ident with ⟨_, _, hIdent⟩
    exact isWord_of_sanitize hIdent

end Bundle

end ResourcePack
