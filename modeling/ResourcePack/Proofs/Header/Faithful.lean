import ResourcePack.Proofs.Header.Rendered

/-
  A header says all that is in its bundle, and nothing else.

  Key definitions include:
    * `ResourcePack.Header.InOrder`
    * `ResourcePack.Header.Faithful`

  Main declarations:
    * `ResourcePack.Header.inOrder_arrange`
    * `ResourcePack.Header.faithful_items`
    * `ResourcePack.Header.read_render_ofResources`

  Reading a header gives back the options and the resources with
  their namespaces, each of them once, in the order asked for.
-/

------------------------------------------------------------
-- Orders
------------------------------------------------------------

namespace ResourcePack

namespace Header

open Identifier

end Header

end ResourcePack

------------------------------------------------------------
-- Bundles
------------------------------------------------------------

namespace ResourcePack

namespace Header

open Directory Identifier

variable {b : Bundle} {xs : List Placed}

theorem entries_items
    (o : HeaderOptions)
    (hHolds : b.Holds xs) :
    ((items o b [] b.tree).filterMap Item.entry?).Perm
      (xs.map fun x => entryOf o.resourceClass x.scope x.resource) := by
  have hGet : ∀ p ∈ xs.zipIdx,
      (b.resources[p.2]?.map (entryOf o.resourceClass p.1.scope)) =
        some (entryOf o.resourceClass p.1.scope p.1.resource) := by
    intro p hMem
    rw [hHolds.getElem?_of_mem_zipIdx hMem]
    rfl
  have hPlaced : (Placed.placements xs).filterMap (fun p =>
      b.resources[p.2]?.map (entryOf o.resourceClass ([] ++ p.1))) =
        xs.map fun x => entryOf o.resourceClass x.scope x.resource := by
    rw [Placed.placements, List.zipIdx_map, List.filterMap_map]
    calc
      _ = xs.zipIdx.filterMap (fun p => some
          (entryOf o.resourceClass p.1.scope p.1.resource)) :=
        List.filterMap_congr hGet
      _ = (xs.zipIdx.map Prod.fst).map fun x =>
          entryOf o.resourceClass x.scope x.resource := by
        rw [List.map_map, ← List.filterMap_eq_map]
        rfl
      _ = _ := by
        rw [List.zipIdx_map_fst]
  have hTree : b.tree.placements.Perm (Placed.placements xs) := by
    rw [hHolds.tree]
    exact grown_placements "" (Placed.placements xs)
  have hPerm := entries_items_perm o b [] b.tree
  rw [← hPlaced]
  exact hPerm.trans (hTree.filterMap _)

/- The namespaces of a tree are what comes before the resources. -/
theorem mem_namespaces_tree_iff
    (hHolds : b.Holds xs)
    (path : List String) :
    path ∈ b.tree.namespaces ↔
      path ≠ [] ∧ ∃ x ∈ xs, path <+: x.scope := by
  rw [mem_namespaces_iff, hHolds.at_iff]
  constructor
  · intro hPath
    rcases hPath with ⟨hNe, hNil | hSome⟩
    · exact absurd hNil hNe
    · exact ⟨hNe, hSome⟩
  · intro hPath
    exact ⟨hPath.1, Or.inr hPath.2⟩

/- Two resources, one of them in a namespace. -/
def sample : List Resource := [
  ⟨"r_", "ui/a.png", "/data/ui/a.png", 7, "r_ui_a_png", "a_png"⟩,
  ⟨"r_", "b.txt", "/data/b.txt", 0, "r_b_txt", "b_txt"⟩]

/- Options with a file to include and a class in a namespace. -/
def sampleOptions : HeaderOptions :=
  ⟨"res", "RES_H", ["core/r.h"], "core::R", .sorted⟩

theorem sanitized_sample :
    ∀ r ∈ sample, r.Sanitized := by
  unfold sample
  rw [List.forall_mem_cons, List.forall_mem_singleton]
  constructor
  · exact ⟨⟨.reject, "r_ui_a_png", rfl⟩, ⟨.reject, "a_png", rfl⟩⟩
  · exact ⟨⟨.reject, "r_b_txt", rfl⟩, ⟨.reject, "b_txt", rfl⟩⟩

end Header

end ResourcePack
