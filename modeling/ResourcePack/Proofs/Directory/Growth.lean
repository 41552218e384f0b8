import Mathlib.Data.List.Basic
import Mathlib.Data.List.Induction
import ResourcePack.Directory

/-
  Trees that grow by attaching resources.

  Key definitions include:
    * `ResourcePack.Directory.At`
    * `ResourcePack.Placement.here`
    * `ResourcePack.Placement.firstNames`
    * `ResourcePack.Placement.below`
    * `ResourcePack.Placement.within`
    * `ResourcePack.Placement.next?`
    * `ResourcePack.Directory.grown`

  Main declarations:
    * `ResourcePack.Directory.grown_eq`
    * `ResourcePack.Directory.at_grown_iff`

  A tree that grew from nothing is determined by the list of its
  placements: the resources of a directory are those placed there,
  and its children are the first names of the other placements, in
  the order in which they are first seen, each grown from what is
  placed below it.
-/

------------------------------------------------------------
-- Nodes
------------------------------------------------------------

namespace ResourcePack

namespace Directory

/- The directories of a tree, each with the path that leads to it. -/
inductive At : Directory → List String → Directory → Prop
  | here (d : Directory) : At d [] d
  | step {d c e : Directory} {path : List String}
      (hChild : c ∈ d.children)
      (hBelow : At c path e) :
      At d (c.name :: path) e

theorem at_nil_iff
    {d e : Directory} :
    At d [] e ↔ e = d := by
  constructor
  · intro hAt
    cases hAt
    rfl
  · rintro rfl
    exact At.here e

theorem at_cons_iff
    {d e : Directory}
    {name : String}
    {path : List String} :
    At d (name :: path) e ↔
      ∃ c ∈ d.children, c.name = name ∧ At c path e := by
  constructor
  · intro hAt
    cases hAt with
    | step hChild hBelow => exact ⟨_, hChild, rfl, hBelow⟩
  · rintro ⟨c, hChild, rfl, hBelow⟩
    exact At.step hChild hBelow

/- The children of a directory lie one step further down. -/
theorem At.child
    {d e c : Directory}
    {path : List String}
    (hAt : At d path e)
    (hChild : c ∈ e.children) :
    At d (path ++ [c.name]) c := by
  induction hAt with
  | here d => exact step hChild (here c)
  | step hFirst _ ih => exact step hFirst (ih hChild)

mutual

/- What holds of a tree whenever it holds of all its children holds. -/
theorem induction
    {P : Directory → Prop}
    (hStep : ∀ d : Directory, (∀ c ∈ d.children, P c) → P d) :
    ∀ d : Directory, P d
  | ⟨name, children, resources⟩ =>
    hStep ⟨name, children, resources⟩ (induction_children hStep children)

theorem induction_children
    {P : Directory → Prop}
    (hStep : ∀ d : Directory, (∀ c ∈ d.children, P c) → P d) :
    ∀ children : List Directory, ∀ c ∈ children, P c
  | [], c, hMem => by cases hMem
  | first :: rest, c, hMem => by
    rcases List.mem_cons.mp hMem with hFirst | hRest
    · rw [hFirst]
      exact induction hStep first
    · exact induction_children hStep rest c hRest

end

end Directory

end ResourcePack

------------------------------------------------------------
-- Placements
------------------------------------------------------------

namespace ResourcePack

/- A path of namespaces, and the index of a resource. -/
abbrev Placement := List String × Nat

namespace Placement

/- The resources placed in the directory itself. -/
def here
    (ps : List Placement) : List Nat :=
  (ps.filter fun p => p.1 = []).map Prod.snd

/- The first names of the placements that go further down. -/
def firstNames
    (ps : List Placement) : List String :=
  ps.filterMap fun p => p.1.head?

/- The placement that is left below a child. -/
def below?
    (name : String) : Placement → Option Placement
  | ([], _) => none
  | (first :: path, i) => if first = name then some (path, i) else none

/- The placements below a child, as seen from there. -/
def below
    (name : String)
    (ps : List Placement) : List Placement :=
  ps.filterMap (below? name)

/- The placements below a path, as seen from there. -/
def within : List String → List Placement → List Placement
  | [], ps => ps
  | name :: path, ps => within path (below name ps)

/-
  The name that comes next after a path on the way along another,
  if the way goes there and further.
-/
def next?
    (path full : List String) : Option String :=
  (path.isPrefixOf? full).bind List.head?

/- What is left below a child was placed under its name. -/
theorem below?_eq_some_iff
    {name : String}
    {p q : Placement} :
    below? name p = some q ↔ p = (name :: q.1, q.2) := by
  rcases p with ⟨full, i⟩
  cases full with
  | nil => simp [below?]
  | cons first path =>
    by_cases hFirst : first = name
    · simp [below?, hFirst, Prod.ext_iff]
    · simp [below?, hFirst]

/- What lies below a child is found under its name. -/
theorem mem_below_iff
    {name : String}
    {ps : List Placement}
    {p : Placement} :
    p ∈ below name ps ↔ (name :: p.1, p.2) ∈ ps := by
  simp [below, below?_eq_some_iff]

/- A child is named by the first name of some placement. -/
theorem mem_firstNames_iff
    {name : String}
    {ps : List Placement} :
    name ∈ firstNames ps ↔ ∃ p ∈ ps, ∃ path, p.1 = name :: path := by
  simp [firstNames, List.head?_eq_some_iff]

/- What is placed at the end of a path, seen from the top. -/
theorem here_within
    (path : List String)
    (ps : List Placement) :
    here (within path ps) = (ps.filter fun p => p.1 = path).map Prod.snd := by
  induction path generalizing ps with
  | nil => rfl
  | cons name path ih =>
    rw [within, ih]
    induction ps with
    | nil => rfl
    | cons p rest ihRest =>
      rcases p with ⟨full, i⟩
      unfold below at ihRest ⊢
      rw [List.filterMap_cons]
      cases full with
      | nil => simpa [below?] using ihRest
      | cons first full =>
        by_cases hFirst : first = name
        · by_cases hFull : full = path <;>
            simpa [below?, hFirst, hFull] using ihRest
        · simpa [below?, hFirst] using ihRest

/- The names of the children at the end of a path, seen from the top. -/
theorem firstNames_within
    (path : List String)
    (ps : List Placement) :
    firstNames (within path ps) = ps.filterMap fun p => next? path p.1 := by
  induction path generalizing ps with
  | nil => rfl
  | cons name path ih =>
    rw [within, ih, below, List.filterMap_filterMap]
    apply List.filterMap_congr
    rintro ⟨full, i⟩ _
    cases full with
    | nil => simp [below?, next?, List.isPrefixOf?]
    | cons first full =>
      by_cases hFirst : first = name
      · simp [below?, next?, List.isPrefixOf?, hFirst]
      · simp [below?, next?, List.isPrefixOf?, hFirst, Ne.symm hFirst]

theorem below_eq_nil
    {name : String}
    {ps : List Placement}
    (hNew : name ∉ firstNames ps) :
    below name ps = [] := by
  apply List.eq_nil_iff_forall_not_mem.mpr
  intro p hMem
  apply hNew
  exact mem_firstNames_iff.mpr ⟨_, mem_below_iff.mp hMem, p.1, rfl⟩

/- Some placement goes along a path if one does so below its first name. -/
theorem exists_cons_prefix_iff
    {first : String}
    {path : List String}
    {ps : List Placement} :
    (∃ p ∈ ps, first :: path <+: p.1) ↔
      first ∈ firstNames ps ∧
        (path = [] ∨ ∃ q ∈ below first ps, path <+: q.1) := by
  constructor
  · rintro ⟨⟨full, i⟩, hMem, rest, rfl⟩
    refine ⟨mem_firstNames_iff.mpr ⟨_, hMem, path ++ rest, rfl⟩,
      Or.inr ?_⟩
    exact ⟨(path ++ rest, i), mem_below_iff.mpr hMem,
      List.prefix_append path rest⟩
  · rintro ⟨hSeen, hRest⟩
    rcases hRest with rfl | ⟨q, hMem, hPre⟩
    · rcases mem_firstNames_iff.mp hSeen with ⟨p, hMem, rest, hEq⟩
      exact ⟨p, hMem, hEq ▸ List.prefix_append [first] rest⟩
    · exact ⟨_, mem_below_iff.mp hMem,
        List.cons_prefix_cons.mpr ⟨rfl, hPre⟩⟩

theorem firstNames_append_nil
    (ps : List Placement)
    (i : Nat) :
    firstNames (ps ++ [([], i)]) = firstNames ps := by
  simp [firstNames, List.filterMap_cons]

/- One more placement further down names a child. -/
theorem firstNames_append_cons
    (ps : List Placement)
    (first : String)
    (rest : List String)
    (i : Nat) :
    firstNames (ps ++ [(first :: rest, i)]) = firstNames ps ++ [first] := by
  simp [firstNames]

theorem below_append_nil
    (name : String)
    (ps : List Placement)
    (i : Nat) :
    below name (ps ++ [([], i)]) = below name ps := by
  simp [below, below?, List.filterMap_cons]

/- One more placement further down is below the child that it names. -/
theorem below_append_cons
    (name : String)
    (ps : List Placement)
    (first : String)
    (rest : List String)
    (i : Nat) :
    below name (ps ++ [(first :: rest, i)]) =
      if first = name then below name ps ++ [(rest, i)] else below name ps := by
  by_cases hEq : first = name <;> simp [below, below?, hEq]

end Placement

end ResourcePack

------------------------------------------------------------
-- Growth
------------------------------------------------------------

namespace ResourcePack

namespace Directory

open Placement

/- The directory that grows from nothing by placing resources. -/
def grown
    (name : String)
    (ps : List Placement) : Directory :=
  ps.foldl (fun d p => d.attach p.1 p.2) (empty name)

/- One more placement is attached to what has grown. -/
theorem grown_append
    (name : String)
    (ps : List Placement)
    (p : Placement) :
    grown name (ps ++ [p]) = (grown name ps).attach p.1 p.2 := by
  simp [grown]

/-
  Changing the child of a name, in a list with one directory for
  each name, changes that one or puts a new one at the end.
-/
theorem alterChild_map
    (f : Directory → Directory)
    (grow : String → Directory)
    (hName : ∀ name, (grow name).name = name)
    {name : String}
    {names : List String}
    (hNodup : names.Nodup) :
    alterChild name f (names.map grow) =
      if name ∈ names then
        names.map fun n => if n = name then f (grow n) else grow n
      else
        names.map grow ++ [f (empty name)] := by
  induction names with
  | nil => rfl
  | cons first rest ih =>
    have hFirst : first ∉ rest := (List.nodup_cons.mp hNodup).1
    have hRest := ih (List.nodup_cons.mp hNodup).2
    rw [List.map_cons, alterChild, hName]
    by_cases hEq : first = name
    · subst hEq
      have hSame :
          rest.map (fun n => if n = first then f (grow n) else grow n) =
            rest.map grow := by
        apply List.map_congr_left
        intro n hMem
        have hNe : n ≠ first := fun hEq => hFirst (hEq ▸ hMem)
        rw [if_neg hNe]
      simp [hSame]
    · rw [if_neg hEq, hRest]
      have hNe : name ≠ first := fun h => hEq h.symm
      by_cases hMem : name ∈ rest
      · simp [hMem, hEq]
      · simp [hMem, hNe]

/- One more name is seen for the first time, or was seen before. -/
theorem eraseDups_append_singleton
    (names : List String)
    (name : String) :
    (names ++ [name]).eraseDups =
      if name ∈ names then
        names.eraseDups
      else
        names.eraseDups ++ [name] := by
  rw [List.eraseDups_append]
  by_cases hMem : name ∈ names
  · simp [List.removeAll, hMem]
  · simp [List.removeAll, hMem, List.eraseDups_cons]

theorem nodup_eraseDups
    (names : List String) :
    names.eraseDups.Nodup := by
  induction names using List.reverseRecOn with
  | nil => simp
  | append_singleton names name ih =>
    rw [eraseDups_append_singleton]
    by_cases hMem : name ∈ names
    · rw [if_pos hMem]
      exact ih
    · rw [if_neg hMem, List.nodup_append]
      refine ⟨ih, by simp, ?_⟩
      intro n hOld m hNew hEq
      rw [List.mem_singleton] at hNew
      rw [hEq, hNew] at hOld
      exact hMem (List.mem_eraseDups.mp hOld)

theorem grown_name
    (name : String)
    (ps : List Placement) :
    (grown name ps).name = name := by
  induction ps using List.reverseRecOn with
  | nil => rfl
  | append_singleton ps p ih =>
    rw [grown_append]
    rcases p with ⟨path, i⟩
    cases path <;> exact ih

/-
  A grown directory, taken apart: its children in the order in
  which they are first seen, each grown from what is below it, and
  the resources placed in it.
-/
theorem grown_eq
    (name : String)
    (ps : List Placement) :
    grown name ps =
      ⟨name, (firstNames ps).eraseDups.map fun n => grown n (below n ps),
        here ps⟩ := by
  induction ps using List.reverseRecOn with
  | nil => rfl
  | append_singleton ps p ih =>
    rcases p with ⟨path, i⟩
    rw [grown_append, ih]
    cases path with
    | nil =>
      simp [attach, alterAt, push, here, firstNames_append_nil,
        below_append_nil]
    | cons first rest =>
      have hHere : here (ps ++ [(first :: rest, i)]) = here ps := by
        simp [here]
      rw [hHere, firstNames_append_cons, eraseDups_append_singleton]
      unfold attach
      rw [alterAt, alterChild_map _ (fun n => grown n (below n ps))
        (fun n => grown_name n _) (nodup_eraseDups _)]
      simp only [List.mem_eraseDups]
      by_cases hMem : first ∈ firstNames ps
      · -- an old child: only what is below it has one more placement
        rw [if_pos hMem, if_pos hMem]
        congr 1
        apply List.map_congr_left
        intro n _
        rw [below_append_cons]
        by_cases hEq : n = first
        · rw [if_pos hEq, if_pos hEq.symm, grown_append, attach]
        · rw [if_neg hEq, if_neg (Ne.symm hEq)]
      · -- a new child: it stands last and holds this placement only
        rw [if_neg hMem, if_neg hMem, List.map_append]
        congr 2
        · apply List.map_congr_left
          intro n hOld
          have hNe : first ≠ n := by
            rintro rfl
            exact hMem (List.mem_eraseDups.mp hOld)
          rw [below_append_cons, if_neg hNe]
        · rw [List.map_singleton, below_append_cons, if_pos rfl,
            below_eq_nil hMem]
          rfl

theorem grown_resources
    (name : String)
    (ps : List Placement) :
    (grown name ps).resources = here ps := by
  rw [grown_eq]

theorem grown_children
    (name : String)
    (ps : List Placement) :
    (grown name ps).children =
      (firstNames ps).eraseDups.map fun n => grown n (below n ps) := by
  rw [grown_eq]

theorem grown_childNames
    (name : String)
    (ps : List Placement) :
    (grown name ps).children.map Directory.name =
      (firstNames ps).eraseDups := by
  rw [grown_children, List.map_map]
  conv_rhs => rw [← List.map_id (firstNames ps).eraseDups]
  apply List.map_congr_left
  intro n _
  exact grown_name n _

/- The child of a name, if some placement begins with that name. -/
theorem grown_child?
    (name ns : String)
    (ps : List Placement) :
    (grown name ps).child? ns =
      if ns ∈ firstNames ps then
        some (grown ns (below ns ps))
      else
        none := by
  have hFind : ∀ names : List String,
      (names.map fun n => grown n (below n ps)).find? (fun c => c.name = ns) =
        if ns ∈ names then some (grown ns (below ns ps)) else none := by
    intro names
    induction names with
    | nil => rfl
    | cons first rest ih =>
      rw [List.map_cons, List.find?_cons, grown_name, ih]
      by_cases hEq : first = ns
      · simp [hEq]
      · simp [hEq, Ne.symm hEq]
  rw [child?, grown_children, hFind]
  simp only [List.mem_eraseDups]

end Directory

end ResourcePack

------------------------------------------------------------
-- Directories of a Grown Tree
------------------------------------------------------------

namespace ResourcePack

namespace Directory

open Placement

/- The name of the directory at the end of a path. -/
def lastName
    (name : String) : List String → String
  | [] => name
  | first :: path => lastName first path

/- Behind a first name lies what grew below it, if it was placed. -/
theorem at_grown_cons_iff
    {name first : String}
    {ps : List Placement}
    {path : List String}
    {d : Directory} :
    At (grown name ps) (first :: path) d ↔
      first ∈ firstNames ps ∧
        At (grown first (below first ps)) path d := by
  rw [at_cons_iff, grown_children]
  constructor
  · rintro ⟨c, hMem, hName, hAt⟩
    rcases List.mem_map.mp hMem with ⟨n, hSeen, rfl⟩
    rw [grown_name] at hName
    subst hName
    exact ⟨List.mem_eraseDups.mp hSeen, hAt⟩
  · rintro ⟨hSeen, hAt⟩
    exact ⟨_, List.mem_map.mpr ⟨first, List.mem_eraseDups.mpr hSeen, rfl⟩,
      grown_name first _, hAt⟩

/-
  The directories of a grown tree lie at the prefixes of the paths
  that were placed, and each grew from what was placed within it.
-/
theorem at_grown_iff
    {name : String}
    {ps : List Placement}
    {path : List String}
    {d : Directory} :
    At (grown name ps) path d ↔
      (path = [] ∨ ∃ p ∈ ps, path <+: p.1) ∧
        d = grown (lastName name path) (within path ps) := by
  induction path generalizing name ps with
  | nil => simp [at_nil_iff, lastName, within]
  | cons first path ih =>
    rw [at_grown_cons_iff, ih, lastName, within, ← and_assoc,
      ← exists_cons_prefix_iff]
    simp

end Directory

end ResourcePack
