import Mathlib.Data.List.MinMax
import ResourcePack.Proofs.Directory.Growth

/-
  Trees and the steps that made them.

  Key definitions include:
    * `ResourcePack.Directory.Step`
    * `ResourcePack.Directory.after`
    * `ResourcePack.Directory.seek`
    * `ResourcePack.Directory.indicesAt`
    * `ResourcePack.Directory.namesBelow`
    * `ResourcePack.Directory.Records`

  Main declarations:
    * `ResourcePack.Directory.find?_alterAt`
    * `ResourcePack.Directory.seek_after`
    * `ResourcePack.Directory.eq_of_seek`
    * `ResourcePack.Directory.records_after`
    * `ResourcePack.Directory.trees_refine_histories`

  A step goes along a path, makes what is missing on it, and may
  attach an index at its end.  It changes the directories on its
  path and no other.  So all that can be seen of a tree is told by
  the list of steps: where there is a directory, what is attached to
  it, and in which order its children stand.
-/

------------------------------------------------------------
-- Steps
------------------------------------------------------------

namespace ResourcePack

namespace Directory

/- A change to a tree: along a path, with or without an index. -/
inductive Step where
  | insert (path : List String) (index : Nat)
  | create (path : List String)
  | append (path : List String) (index : Nat)
  deriving DecidableEq

namespace Step

/- The path that a step goes along. -/
def path : Step → List String
  | insert path _ => path
  | create path => path
  | append path _ => path

/- The index that a step attaches, if it attaches one. -/
def index? : Step → Option Nat
  | insert _ i => some i
  | create _ => none
  | append _ i => some i

/-
  A tree after a step: a resource is inserted at a path, or the
  directories on a path are made, with or without a resource that is
  then attached to the last of them.
-/
def apply
    (d : Directory) : Step → Directory
  | insert path i => d.attach path i
  | create path => d.touch path
  | append path i => (d.touch path).attach path i

/- What a step does to the directory at the end of its path. -/
def effect
    (s : Step)
    (d : Directory) : Directory :=
  { d with resources := d.resources ++ s.index?.toList }

end Step

/- The tree that steps make of a root with nothing in it. -/
def after
    (steps : List Step) : Directory :=
  steps.foldl Step.apply root

/- The indices that steps attach at a path, in order. -/
def indicesAt
    (steps : List Step)
    (path : List String) : List Nat :=
  (steps.filter fun s => s.path = path).filterMap Step.index?

/-
  The names that come next after a path on the way along the paths of
  steps, each once, in the order in which they are first seen.
-/
def namesBelow
    (steps : List Step)
    (path : List String) : List String :=
  (steps.filterMap fun s => Placement.next? path s.path).eraseDups

/- The names of the children of a directory, in order. -/
def childNames
    (d : Directory) : List String :=
  d.children.map Directory.name

/- The directory at a path, or one with nothing in it. -/
def seek
    (d : Directory)
    (path : List String) : Directory :=
  (d.find? path).getD (empty (lastName d.name path))

/- All that is seen of a tree, as its steps tell it. -/
structure Records
    (steps : List Step)
    (d : Directory) : Prop where
  find?_isSome_iff : ∀ path,
    (d.find? path).isSome = true ↔
      path = [] ∨ ∃ s ∈ steps, path <+: s.path
  name : ∀ path e, d.find? path = some e → e.name = lastName "" path
  resources : ∀ path e, d.find? path = some e →
    e.resources = indicesAt steps path
  childNames : ∀ path e, d.find? path = some e →
    e.childNames = namesBelow steps path
  children : ∀ path e, d.find? path = some e →
    ∀ c ∈ e.children, d.find? (path ++ [c.name]) = some c
  count : d.count = (steps.filterMap Step.index?).length
  depth : d.depth = (steps.map fun s => s.path.length).max?.getD 0

end Directory

end ResourcePack

------------------------------------------------------------
-- Changes at a Path
------------------------------------------------------------

namespace ResourcePack

namespace Directory

/- A change to a directory that concerns its resources only. -/
structure Shallow
    (f : Directory → Directory) : Prop where
  name : ∀ d, (f d).name = d.name
  children : ∀ d, (f d).children = d.children

variable {f g : Directory → Directory}

theorem alterAt_name
    (hName : ∀ d, (f d).name = d.name)
    (path : List String)
    (d : Directory) :
    (alterAt f path d).name = d.name := by
  cases path with
  | nil => exact hName d
  | cons first path => rfl

theorem alterChild_alterChild
    (hName : ∀ d, (g d).name = d.name)
    (name : String)
    (children : List Directory) :
    alterChild name f (alterChild name g children) =
      alterChild name (f ∘ g) children := by
  induction children with
  | nil =>
    have hNew : (g (empty name)).name = name := hName _
    simp [alterChild, hNew]
  | cons c rest ih =>
    by_cases hEq : c.name = name
    · have hSame : (g c).name = name := (hName c).trans hEq
      simp [alterChild, hEq, hSame]
    · rw [alterChild, if_neg hEq, alterChild, if_neg hEq, ih, alterChild,
        if_neg hEq]

/- Two changes at a path are one. -/
theorem alterAt_alterAt
    (hName : ∀ d, (g d).name = d.name)
    (path : List String)
    (d : Directory) :
    alterAt f path (alterAt g path d) = alterAt (f ∘ g) path d := by
  induction path generalizing d with
  | nil => rfl
  | cons first path ih =>
    have hBelow : alterAt f path ∘ alterAt g path =
        alterAt (f ∘ g) path :=
      funext ih
    rw [alterAt, alterAt, alterChild_alterChild (alterAt_name hName path),
      hBelow, alterAt]

/- The child of a name after one of the children was changed. -/
theorem find?_alterChild
    (hName : ∀ d, (f d).name = d.name)
    (name other : String)
    (children : List Directory) :
    (alterChild name f children).find? (fun c => c.name = other) =
      if other = name then
        some (f ((children.find? fun c => c.name = name).getD
          (empty name)))
      else
        children.find? fun c => c.name = other := by
  induction children with
  | nil =>
    have hNew : (f (empty name)).name = name := hName _
    by_cases hOther : other = name
    · simp [alterChild, hNew, hOther]
    · simp [alterChild, hNew, hOther, Ne.symm hOther]
  | cons c rest ih =>
    by_cases hEq : c.name = name
    · have hSame : (f c).name = name := (hName c).trans hEq
      by_cases hOther : other = name
      · simp [alterChild, hEq, hSame, hOther]
      · simp [alterChild, hEq, hSame, hOther, Ne.symm hOther]
    · by_cases hOther : other = name
      · subst hOther
        simp [alterChild, hEq, ih]
      · by_cases hHere : c.name = other
        · simp [alterChild, hHere, hOther]
        · simp [alterChild, hEq, hHere, hOther, ih]

theorem map_name_alterChild
    (hName : ∀ d, (f d).name = d.name)
    (name : String)
    (children : List Directory) :
    (alterChild name f children).map Directory.name =
      if name ∈ children.map Directory.name then
        children.map Directory.name
      else
        children.map Directory.name ++ [name] := by
  induction children with
  | nil => simp [alterChild, hName, empty]
  | cons c rest ih =>
    by_cases hEq : c.name = name
    · simp [alterChild, hEq, hName]
    · rw [alterChild, if_neg hEq, List.map_cons, ih, List.map_cons]
      simp only [List.mem_cons, Ne.symm hEq, false_or]
      by_cases hMem : name ∈ rest.map Directory.name
      · rw [if_pos hMem, if_pos hMem]
      · rw [if_neg hMem, if_neg hMem, List.cons_append]

theorem seek_empty
    (name : String)
    (path : List String) :
    (empty name).seek path = empty (lastName name path) := by
  cases path <;> rfl

theorem find?_cons
    (d : Directory)
    (name : String)
    {path : List String}
    (hNe : path ≠ []) :
    d.find? (name :: path) =
      ((d.child? name).getD (empty name)).find? path := by
  rw [find?]
  cases d.child? name with
  | some c => rfl
  | none =>
    cases path with
    | nil => exact absurd rfl hNe
    | cons second path => rfl

theorem seek_cons
    (d : Directory)
    (name : String)
    (path : List String) :
    d.seek (name :: path) =
      ((d.child? name).getD (empty name)).seek path := by
  cases hChild : d.child? name with
  | some c =>
    have hName : c.name = name := by
      simpa using List.find?_some hChild
    simp only [seek, find?, hChild, lastName, Option.getD_some, hName]
  | none =>
    rw [Option.getD_none, seek_empty]
    simp only [seek, find?, hChild, lastName, Option.getD_none]

/-
  The directory that a path leads to after a change along another
  path: changed itself if the way leads through it, and otherwise the
  one that was there.
-/
theorem find?_alterAt
    (hShallow : Shallow f)
    (d : Directory)
    (path other : List String) :
    (alterAt f path d).find? other =
      match other.isPrefixOf? path with
      | some rest => some (alterAt f rest (d.seek other))
      | none => d.find? other := by
  induction other generalizing path d with
  | nil => rfl
  | cons name other ih =>
    cases path with
    | nil =>
      have hChild : (f d).child? name = d.child? name := by
        rw [child?, hShallow.children, child?]
      simp only [alterAt, find?, hChild, List.isPrefixOf?]
    | cons first path =>
      have hChild : (alterAt f (first :: path) d).child? name =
          if name = first then
            some (alterAt f path ((d.child? first).getD (empty first)))
          else
            d.child? name :=
        find?_alterChild (alterAt_name hShallow.name path) first name _
      rw [find?, hChild]
      by_cases hName : name = first
      · subst hName
        have hPrefix : (name :: other).isPrefixOf? (name :: path) =
            other.isPrefixOf? path := by
          simp [List.isPrefixOf?]
        rw [if_pos rfl, hPrefix, seek_cons]
        simp only [ih]
        cases hRest : other.isPrefixOf? path with
        | some rest => rfl
        | none =>
          have hNe : other ≠ [] := by
            rintro rfl
            cases hRest
          exact (find?_cons d name hNe).symm
      · have hPrefix : (name :: other).isPrefixOf? (first :: path) =
            none := by
          simp [List.isPrefixOf?, hName]
        rw [if_neg hName, hPrefix]
        rfl

/- The directory that is sought at a path after a change. -/
theorem seek_alterAt
    (hShallow : Shallow f)
    (d : Directory)
    (path other : List String) :
    (alterAt f path d).seek other =
      match other.isPrefixOf? path with
      | some rest => alterAt f rest (d.seek other)
      | none => d.seek other := by
  rw [seek, find?_alterAt hShallow, alterAt_name hShallow.name]
  cases other.isPrefixOf? path <;> rfl

end Directory

end ResourcePack

------------------------------------------------------------
-- Steps in a Row
------------------------------------------------------------

namespace ResourcePack

namespace Directory

/- A step concerns the resources of the directory at its end only. -/
theorem Step.shallow_effect
    (s : Step) :
    Shallow s.effect where
  name _ := rfl
  children _ := rfl

/- A step changes the directory at its path. -/
theorem Step.apply_eq
    (s : Step)
    (d : Directory) :
    s.apply d = alterAt s.effect s.path d := by
  cases s with
  | insert path i => rfl
  | create path =>
    have hEffect : (create path).effect = id := by
      funext e
      cases e
      simp [effect, index?]
    rw [hEffect]
    rfl
  | append path i => exact alterAt_alterAt (fun _ => rfl) path d

theorem after_append_singleton
    (steps : List Step)
    (s : Step) :
    after (steps ++ [s]) = alterAt s.effect s.path (after steps) := by
  rw [after, List.foldl_append, ← after, List.foldl_cons, Step.apply_eq]
  rfl

theorem after_name
    (steps : List Step) :
    (after steps).name = "" := by
  induction steps using List.reverseRecOn with
  | nil => rfl
  | append_singleton steps s ih =>
    rw [after_append_singleton, alterAt_name s.shallow_effect.name, ih]

theorem indicesAt_append_singleton
    (steps : List Step)
    (s : Step)
    (path : List String) :
    indicesAt (steps ++ [s]) path =
      indicesAt steps path ++
        if s.path = path then s.index?.toList else [] := by
  rw [indicesAt, List.filter_append, List.filterMap_append, ← indicesAt]
  by_cases hPath : s.path = path
  · cases hIndex : s.index? <;> simp [hPath, hIndex]
  · simp [hPath]

theorem namesBelow_append_singleton
    (steps : List Step)
    (s : Step)
    (path : List String) :
    namesBelow (steps ++ [s]) path =
      match Placement.next? path s.path with
      | some name =>
        if name ∈ namesBelow steps path then
          namesBelow steps path
        else
          namesBelow steps path ++ [name]
      | none => namesBelow steps path := by
  rw [namesBelow, List.filterMap_append]
  cases hNext : Placement.next? path s.path with
  | none => simp [hNext, namesBelow]
  | some name =>
    simp [hNext, eraseDups_append_singleton, namesBelow]

/- What a step does to the directory it leads to or through. -/
theorem alterAt_effect
    (s : Step)
    (rest : List String)
    (d : Directory) :
    (alterAt s.effect rest d).resources =
        d.resources ++ (if rest = [] then s.index?.toList else []) ∧
      (alterAt s.effect rest d).childNames =
        match rest.head? with
        | some name =>
          if name ∈ d.childNames then
            d.childNames
          else
            d.childNames ++ [name]
        | none => d.childNames := by
  cases rest with
  | nil => exact ⟨rfl, rfl⟩
  | cons name rest =>
    refine ⟨(List.append_nil _).symm, ?_⟩
    exact map_name_alterChild (alterAt_name s.shallow_effect.name rest)
      name d.children

/-
  What is attached to the directory at a path and what its children
  are called, as the steps tell it.
-/
theorem seek_after
    (steps : List Step)
    (path : List String) :
    ((after steps).seek path).resources = indicesAt steps path ∧
      ((after steps).seek path).childNames = namesBelow steps path := by
  induction steps using List.reverseRecOn with
  | nil =>
    have hSeek : (after []).seek path = empty (lastName "" path) :=
      seek_empty "" path
    rw [hSeek]
    exact ⟨rfl, rfl⟩
  | append_singleton steps s ih =>
    rw [after_append_singleton, seek_alterAt s.shallow_effect,
      indicesAt_append_singleton, namesBelow_append_singleton, ← ih.1,
      ← ih.2, Placement.next?]
    cases hRest : path.isPrefixOf? s.path with
    | some rest =>
      have hPath := List.isPrefixOf?_eq_some_iff_append_eq.mp hRest
      have hEnd : s.path = path ↔ rest = [] := by
        rw [← hPath]
        exact List.append_right_eq_self
      simp only [hEnd, Option.bind_some]
      exact alterAt_effect s rest _
    | none =>
      have hAway : s.path ≠ path := by
        intro hHere
        have hSelf : path.isPrefixOf? path = some [] :=
          List.isPrefixOf?_eq_some_iff_append_eq.mpr (List.append_nil path)
        rw [hHere, hSelf] at hRest
        cases hRest
      simp [hAway]

/- There is a directory at the prefixes of the paths of the steps. -/
theorem find?_after_isSome_iff
    (steps : List Step)
    (path : List String) :
    ((after steps).find? path).isSome = true ↔
      path = [] ∨ ∃ s ∈ steps, path <+: s.path := by
  induction steps using List.reverseRecOn with
  | nil => cases path <;> simp [after, find?, root, empty, child?]
  | append_singleton steps s ih =>
    rw [after_append_singleton, find?_alterAt s.shallow_effect]
    cases hRest : path.isPrefixOf? s.path with
    | some rest =>
      have hPrefix : path <+: s.path :=
        ⟨rest, List.isPrefixOf?_eq_some_iff_append_eq.mp hRest⟩
      simp [hPrefix]
    | none =>
      have hAway : ¬path <+: s.path := by
        rintro ⟨rest, hPath⟩
        rw [List.isPrefixOf?_eq_some_iff_append_eq.mpr hPath] at hRest
        cases hRest
      simp [ih, hAway, or_and_right, exists_or]

end Directory

end ResourcePack

------------------------------------------------------------
-- Equal Trees
------------------------------------------------------------

namespace ResourcePack

namespace Directory

/- Where no two children have the same name, each is found by its own. -/
theorem child?_of_mem
    {d c : Directory}
    (hNodup : d.childNames.Nodup)
    (hChild : c ∈ d.children) :
    d.child? c.name = some c := by
  rw [childNames] at hNodup
  rw [child?]
  generalize d.children = children at hNodup hChild
  induction children with
  | nil => cases hChild
  | cons first rest ih =>
    rw [List.map_cons, List.nodup_cons] at hNodup
    rcases List.mem_cons.mp hChild with rfl | hRest
    · simp
    · have hNe : first.name ≠ c.name := by
        intro hEq
        exact hNodup.1 (hEq ▸ List.mem_map_of_mem hRest)
      rw [List.find?_cons_of_neg (by simpa using hNe)]
      exact ih hNodup.2 hRest

/- Lists of directories are equal if those of equal names are. -/
theorem eq_of_map_name
    {children others : List Directory}
    (hNames : children.map Directory.name = others.map Directory.name)
    (hEach : ∀ c ∈ children, ∀ c' ∈ others, c.name = c'.name → c = c') :
    children = others := by
  apply List.ext_getElem
  · simpa using congrArg List.length hNames
  · intro i hI hI'
    apply hEach _ (List.getElem_mem hI) _ (List.getElem_mem hI')
    have hName := congrArg (fun names => names[i]?) hNames
    simpa [hI, hI'] using hName

/-
  Trees of one name are equal if at every path the same indices are
  attached and the children have the same names, each child another.
-/
theorem eq_of_seek
    {d d' : Directory}
    (hName : d.name = d'.name)
    (hNodup : ∀ path, (d.seek path).childNames.Nodup)
    (hResources : ∀ path,
      (d.seek path).resources = (d'.seek path).resources)
    (hChildNames : ∀ path,
      (d.seek path).childNames = (d'.seek path).childNames) :
    d = d' := by
  induction d using Directory.induction generalizing d' with
  | hStep d ih =>
    have hNodupHere : d.childNames.Nodup := hNodup []
    have hNodup' : d'.childNames.Nodup :=
      hChildNames [] ▸ hNodup []
    have hChildren : d.children = d'.children := by
      apply eq_of_map_name (hChildNames [])
      intro c hC c' hC' hSame
      have hSeek : ∀ path, d.seek (c.name :: path) = c.seek path := by
        intro path
        rw [seek_cons, child?_of_mem hNodupHere hC, Option.getD_some]
      have hSeek' : ∀ path, d'.seek (c.name :: path) = c'.seek path := by
        intro path
        rw [hSame, seek_cons, child?_of_mem hNodup' hC',
          Option.getD_some]
      apply ih c hC hSame
      · intro path
        rw [← hSeek]
        exact hNodup (c.name :: path)
      · intro path
        rw [← hSeek, ← hSeek']
        exact hResources (c.name :: path)
      · intro path
        rw [← hSeek, ← hSeek']
        exact hChildNames (c.name :: path)
    have hHere : d.resources = d'.resources := hResources []
    cases d
    cases d'
    simp only at hName hChildren hHere
    rw [hName, hChildren, hHere]

/-
  Trees that steps have made are equal exactly when the steps attach
  the same indices and name the same children, in order, everywhere.
-/
theorem after_eq_iff
    (steps steps' : List Step) :
    after steps = after steps' ↔
      ∀ path, indicesAt steps path = indicesAt steps' path ∧
        namesBelow steps path = namesBelow steps' path := by
  constructor
  · intro hEq path
    rw [← (seek_after steps path).1, ← (seek_after steps path).2, hEq]
    exact seek_after steps' path
  · intro hAgree
    apply eq_of_seek
    · rw [after_name, after_name]
    · intro path
      rw [(seek_after steps path).2]
      exact nodup_eraseDups _
    · intro path
      rw [(seek_after steps path).1, (seek_after steps' path).1]
      exact (hAgree path).1
    · intro path
      rw [(seek_after steps path).2, (seek_after steps' path).2]
      exact (hAgree path).2

/- Directories are the same in every part exactly when they are equal. -/
theorem same_iff_eq
    {d d' : Directory} :
    d.same d' = true ↔ d = d' := by
  induction d using Directory.induction generalizing d' with
  | hStep d ih =>
    obtain ⟨name, children, resources⟩ := d
    obtain ⟨name', children', resources'⟩ := d'
    have hAll : sameAll children children' = true ↔
        children = children' := by
      induction children generalizing children' with
      | nil => cases children' <;> simp [sameAll]
      | cons c rest ihRest =>
        cases children' with
        | nil => simp [sameAll]
        | cons c' rest' =>
          have hFirst : c.same c' = true ↔ c = c' :=
            ih c List.mem_cons_self
          have hRest : sameAll rest rest' = true ↔ rest = rest' := by
            apply ihRest
            intro d hMem
            exact ih d (List.mem_cons_of_mem c hMem)
          rw [sameAll, Bool.and_eq_true, hFirst, hRest, List.cons.injEq]
    rw [same, Bool.and_eq_true, Bool.and_eq_true, hAll,
      decide_eq_true_eq, decide_eq_true_eq, Directory.mk.injEq]
    constructor
    · rintro ⟨⟨hName, hResources⟩, hChildren⟩
      exact ⟨hName, hChildren, hResources⟩
    · rintro ⟨hName, hChildren, hResources⟩
      exact ⟨⟨hName, hResources⟩, hChildren⟩

end Directory

end ResourcePack

------------------------------------------------------------
-- Measures
------------------------------------------------------------

namespace ResourcePack

namespace Directory

variable {f : Directory → Directory}

/- Changing one of several directories adds what the change adds. -/
theorem countAll_alterChild
    {n : Nat}
    (hCount : ∀ d, (f d).count = d.count + n)
    (name : String)
    (children : List Directory) :
    countAll (alterChild name f children) = countAll children + n := by
  induction children with
  | nil =>
    simp [alterChild, countAll, hCount, empty, count]
  | cons c rest ih =>
    rw [alterChild]
    by_cases hName : c.name = name
    · rw [if_pos hName, countAll, hCount, countAll]
      omega
    · rw [if_neg hName, countAll, ih, countAll]
      omega

/- A change at a path adds what it adds to the directory there. -/
theorem count_alterAt
    {n : Nat}
    (hCount : ∀ d, (f d).count = d.count + n)
    (path : List String)
    (d : Directory) :
    (alterAt f path d).count = d.count + n := by
  induction path generalizing d with
  | nil => exact hCount d
  | cons name path ih =>
    obtain ⟨own, children, resources⟩ := d
    rw [alterAt, count, count, countAll_alterChild ih, Nat.add_assoc]

/- Changing one of several directories makes a path into it. -/
theorem depthAll_alterChild
    {n : Nat}
    (hDepth : ∀ d, (f d).depth = max d.depth n)
    (name : String)
    (children : List Directory) :
    depthAll (alterChild name f children) =
      max (depthAll children) (n + 1) := by
  induction children with
  | nil =>
    simp [alterChild, depthAll, hDepth, empty, depth]
  | cons c rest ih =>
    rw [alterChild]
    by_cases hName : c.name = name
    · rw [if_pos hName, depthAll, hDepth, depthAll]
      omega
    · rw [if_neg hName, depthAll, ih, depthAll]
      omega

/- A change at a path makes the tree as deep as the path is long. -/
theorem depth_alterAt
    (hDepth : ∀ d, (f d).depth = d.depth)
    (path : List String)
    (d : Directory) :
    (alterAt f path d).depth = max d.depth path.length := by
  induction path generalizing d with
  | nil => exact (hDepth d).trans (Nat.max_zero _).symm
  | cons name path ih =>
    obtain ⟨own, children, resources⟩ := d
    rw [alterAt, depth, depth, depthAll_alterChild ih, List.length_cons]

/- The resources of a tree are the indices that the steps attach. -/
theorem count_after
    (steps : List Step) :
    (after steps).count = (steps.filterMap Step.index?).length := by
  induction steps using List.reverseRecOn with
  | nil => simp [after, root, empty, count, countAll]
  | append_singleton steps s ih =>
    have hEffect : ∀ d : Directory,
        (s.effect d).count = d.count + s.index?.toList.length := by
      intro d
      obtain ⟨name, children, resources⟩ := d
      simp only [Step.effect, count, List.length_append]
      omega
    rw [after_append_singleton, count_alterAt hEffect, ih,
      List.filterMap_append, List.length_append]
    cases hIndex : s.index? <;> simp [hIndex]

/- The depth of a tree is the length of the longest path of a step. -/
theorem depth_after
    (steps : List Step) :
    (after steps).depth =
      (steps.map fun s => s.path.length).max?.getD 0 := by
  induction steps using List.reverseRecOn with
  | nil => simp [after, root, empty, depth, depthAll]
  | append_singleton steps s ih =>
    have hEffect : ∀ d : Directory, (s.effect d).depth = d.depth := by
      intro d
      obtain ⟨name, children, resources⟩ := d
      rfl
    rw [after_append_singleton, depth_alterAt hEffect, ih,
      List.map_append, List.map_singleton]
    generalize steps.map (fun s => s.path.length) = lengths
    cases lengths with
    | nil => simp
    | cons n lengths =>
      simp [List.max?_cons', List.foldl_append, -List.max?_cons]

end Directory

end ResourcePack

------------------------------------------------------------
-- Histories
------------------------------------------------------------

namespace ResourcePack

namespace Directory

theorem name_of_find?
    {d e : Directory}
    {path : List String}
    (hFind : d.find? path = some e) :
    e.name = lastName d.name path := by
  induction path generalizing d with
  | nil => rw [← Option.some.inj hFind, lastName]
  | cons name path ih =>
    rw [find?] at hFind
    cases hChild : d.child? name with
    | none =>
      rw [hChild] at hFind
      cases hFind
    | some c =>
      have hName : c.name = name := by
        simpa using List.find?_some hChild
      rw [hChild] at hFind
      rw [ih hFind, lastName, hName]

/- A path in two parts leads first to a directory on the way. -/
theorem find?_append
    (d : Directory)
    (path rest : List String) :
    d.find? (path ++ rest) =
      (d.find? path).bind fun e => e.find? rest := by
  induction path generalizing d with
  | nil => rfl
  | cons name path ih =>
    rw [List.cons_append, find?, find?]
    cases d.child? name with
    | none => rfl
    | some c => exact ih c

/- What a path leads to is what is sought there. -/
theorem seek_of_find?
    {d e : Directory}
    {path : List String}
    (hFind : d.find? path = some e) :
    d.seek path = e := by
  rw [seek, hFind, Option.getD_some]

/- A tree that steps have made is as they tell. -/
theorem records_after
    (steps : List Step) :
    Records steps (after steps) where
  find?_isSome_iff := find?_after_isSome_iff steps
  name path e hFind := by
    rw [name_of_find? hFind, after_name]
  resources path e hFind := by
    rw [← seek_of_find? hFind]
    exact (seek_after steps path).1
  childNames path e hFind := by
    rw [← seek_of_find? hFind]
    exact (seek_after steps path).2
  children path e hFind c hChild := by
    have hNodup : e.childNames.Nodup := by
      rw [← seek_of_find? hFind, (seek_after steps path).2]
      exact nodup_eraseDups _
    rw [find?_append, hFind, Option.bind_some, find?,
      child?_of_mem hNodup hChild]
    rfl
  count := count_after steps
  depth := depth_after steps

/-
  The tree that steps make of an empty root is as the steps tell it,
  and two trees are the same exactly when their steps tell the same
  of every path.
-/
theorem trees_refine_histories :
    (∀ steps, Records steps (after steps)) ∧
      ∀ steps steps',
        ((after steps == after steps') = true ↔
          ∀ path, indicesAt steps path = indicesAt steps' path ∧
            namesBelow steps path = namesBelow steps' path) ∧
        ((after steps == after steps') = true ↔
          after steps = after steps') := by
  refine ⟨records_after, ?_⟩
  intro steps steps'
  have hSame : (after steps == after steps') = true ↔
      after steps = after steps' :=
    same_iff_eq
  exact ⟨hSame.trans (after_eq_iff steps steps'), hSame⟩

/- An empty name is a name, and a path may hold one name twice. -/
example :
    (after [.create ["", "a", "a"], .insert ["b"] 7,
      .append [""] 7]).childNames = ["", "b"] := by
  decide +kernel

end Directory

end ResourcePack
