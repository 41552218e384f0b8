import Mathlib.Data.List.Perm.Basic
import ResourcePack.Header
import ResourcePack.Proofs.Bundle.Nodes
import ResourcePack.Proofs.Text.Reading

/-
  What a header says, line by line.

  Key definitions include:
    * `ResourcePack.Header.Entry`
    * `ResourcePack.Header.Item`
    * `ResourcePack.Header.items`
    * `ResourcePack.Header.declaredIn`

  Main declarations:
    * `ResourcePack.Header.items_eq`
    * `ResourcePack.Header.filter_bodyLines`
    * `ResourcePack.Header.opened_items_perm`
    * `ResourcePack.Header.closed_items_perm`
    * `ResourcePack.Header.entries_items_perm`
    * `ResourcePack.Header.declaredIn_items`

  The lines of a directory, blank ones apart, are the lines of a
  list of items: namespaces that are opened and closed, and objects.
  What the items say in all, and what they say at one path, follows
  by induction on the tree.
-/

------------------------------------------------------------
-- Items
------------------------------------------------------------

namespace ResourcePack

namespace Header

/- An object: the namespaces around it, and what it is made with. -/
structure Entry where
  path : List String
  resourceClass : String
  ident : String
  symbol : String
  size : Nat
  deriving DecidableEq

/- What one line inside the outer namespace says. -/
inductive Item where
  | opened (indent : Nat) (path : List String)
  | closed (indent : Nat) (path : List String)
  | external (path : List String) (symbol : String)
  | object (indent : Nat) (entry : Entry)
  deriving DecidableEq

namespace Item

/- The line of an item. -/
def line : Item → String
  | opened n path =>
    Text.spaces n ++ "namespace " ++ path.getLast?.getD "" ++ " \x7b"
  | closed n _ => Text.spaces n ++ "\x7d"
  | external _ symbol => "\t\textern \"C\" const char " ++ symbol ++ "[];"
  | object n e =>
    Text.spaces n ++ "constexpr const " ++ e.resourceClass ++ " " ++
      e.ident ++ "(externals::" ++ e.symbol ++ ", " ++
      toString e.size ++ ");"

theorem line_opened
    (n : Nat)
    (path : List String) :
    (opened n path).line =
      Text.spaces n ++ "namespace " ++ path.getLast?.getD "" ++
        " \x7b" :=
  rfl

theorem line_closed
    (n : Nat)
    (path : List String) :
    (closed n path).line = Text.spaces n ++ "\x7d" :=
  rfl

theorem line_external
    (path : List String)
    (symbol : String) :
    (external path symbol).line =
      "\t\textern \"C\" const char " ++ symbol ++ "[];" :=
  rfl

theorem line_object
    (n : Nat)
    (e : Entry) :
    (object n e).line =
      Text.spaces n ++ "constexpr const " ++ e.resourceClass ++ " " ++
        e.ident ++ "(externals::" ++ e.symbol ++ ", " ++
        toString e.size ++ ");" :=
  rfl

theorem notBlank_line
    (item : Item) :
    Text.notBlank item.line = true := by
  cases item <;> exact Text.notBlank_append _ (by decide)

/- The namespace that is opened, with the indentation of the line. -/
def opened? : Item → Option (Nat × List String)
  | opened n path => some (n, path)
  | _ => none

/- The object that is defined. -/
def entry? : Item → Option Entry
  | object _ e => some e
  | _ => none

/- The namespace in which an item declares a namespace or an object. -/
def home? : Item → Option (List String)
  | opened _ path => some path.dropLast
  | object _ e => some e.path
  | _ => none

end Item

/- What is declared in a namespace, in order. -/
def declaredIn
    (path : List String)
    (items : List Item) : List Item :=
  items.filter fun item => item.home? = some path

/- The object of a resource in a namespace. -/
def entryOf
    (resourceClass : String)
    (path : List String)
    (r : Resource) : Entry :=
  ⟨path, resourceClass, r.ident, r.symbol, r.size⟩

/- The item that defines the object of a resource. -/
def objectItem
    (resourceClass : String)
    (path : List String)
    (r : Resource) : Item :=
  .object (4 * (path.length + 1)) (entryOf resourceClass path r)

/- A namespace that is opened below a path. -/
def openedItem
    (path : List String)
    (name : String) : Item :=
  .opened (4 * (path.length + 1)) (path ++ [name])

/- A namespace that is closed below a path. -/
def closedItem
    (path : List String)
    (name : String) : Item :=
  .closed (4 * (path.length + 1)) (path ++ [name])

/- The items of a namespace block around its contents. -/
def blockItems
    (path : List String)
    (name : String)
    (contents : List Item) : List Item :=
  openedItem path name :: (contents ++ [closedItem path name])

mutual

/- The items of everything declared in a directory at a path. -/
def items
    (o : HeaderOptions)
    (b : Bundle)
    (path : List String) : Directory → List Item
  | ⟨name, children, indices⟩ =>
    ((arrange o.order Prod.fst (childItems o b path children)).flatMap
      Prod.snd) ++
      (arrange o.order Resource.ident
        (b.attached ⟨name, children, indices⟩)).map
        (objectItem o.resourceClass path)

/- The items of a list of directories, with their names. -/
def childItems
    (o : HeaderOptions)
    (b : Bundle)
    (path : List String) : List Directory → List (String × List Item)
  | [] => []
  | c :: rest =>
    (c.name, blockItems path c.name (items o b (path ++ [c.name]) c)) ::
      childItems o b path rest

end

end Header

end ResourcePack

------------------------------------------------------------
-- Equations
------------------------------------------------------------

namespace ResourcePack

namespace Header

/- What is arranged by a name can be changed before or after. -/
theorem arrange_map
    {α β : Type}
    (order : Order)
    (name : β → String)
    (f : α → β)
    (xs : List α) :
    arrange order name (xs.map f) =
      (arrange order (fun x => name (f x)) xs).map f := by
  cases order with
  | insertion => rfl
  | sorted =>
    symm
    apply List.map_mergeSort
    intro x _ y _
    rfl

/- The items of a directory, child by child and then by resource. -/
theorem items_eq
    (o : HeaderOptions)
    (b : Bundle)
    (path : List String)
    (d : Directory) :
    items o b path d =
      ((arrange o.order Directory.name d.children).flatMap fun c =>
        blockItems path c.name (items o b (path ++ [c.name]) c)) ++
        (arrange o.order Resource.ident (b.attached d)).map
          (objectItem o.resourceClass path) := by
  have hChildren : ∀ children : List Directory,
      childItems o b path children =
        children.map fun c =>
          (c.name,
            blockItems path c.name (items o b (path ++ [c.name]) c)) := by
    intro children
    induction children with
    | nil => simp [childItems]
    | cons c rest ih => simp [childItems, ih]
  cases d
  rw [items, hChildren, arrange_map, List.flatMap_map]

theorem bodyLines_eq
    (o : HeaderOptions)
    (b : Bundle)
    (depth : Nat)
    (d : Directory) :
    bodyLines o b depth d =
      ((arrange o.order Directory.name d.children).flatMap fun c =>
        scopeLines depth c.name (bodyLines o b (depth + 1) c)) ++
        (arrange o.order Resource.ident (b.attached d)).map
          (objectLine o.resourceClass depth) := by
  have hChildren : ∀ children : List Directory,
      childBlocks o b depth children =
        children.map fun c =>
          (c.name,
            scopeLines depth c.name (bodyLines o b (depth + 1) c)) := by
    intro children
    induction children with
    | nil => simp [childBlocks]
    | cons c rest ih => simp [childBlocks, ih]
  cases d
  rw [bodyLines, hChildren, arrange_map, List.flatMap_map]

/- The lines of a namespace block are those of its items. -/
theorem filter_scopeLines
    {path : List String}
    {name : String}
    {lines : List String}
    {contents : List Item}
    (hContents : lines.filter Text.notBlank = contents.map Item.line) :
    (scopeLines (path.length + 1) name lines).filter Text.notBlank =
      (blockItems path name contents).map Item.line := by
  have hOpen : indent (path.length + 1) ++ "namespace " ++ name ++ " \x7b" =
      (openedItem path name).line := by
    rw [openedItem, Item.line_opened, List.getLast?_concat,
      Option.getD_some, indent]
  have hClose : indent (path.length + 1) ++ "\x7d" =
      (closedItem path name).line := by
    rw [closedItem, Item.line_closed, indent]
  rw [scopeLines, blockItems, hOpen, hClose, List.map_cons,
    List.map_append, ← hContents,
    List.filter_cons_of_pos (Item.notBlank_line _),
    List.filter_append, Text.filter_orBlank,
    List.filter_cons_of_pos (Item.notBlank_line _)]
  rfl

/- The lines of a directory, blank ones apart, are those of its items. -/
theorem filter_bodyLines
    (o : HeaderOptions)
    (b : Bundle)
    (path : List String)
    (d : Directory) :
    (bodyLines o b (path.length + 1) d).filter Text.notBlank =
      (items o b path d).map Item.line := by
  induction d using Directory.induction generalizing path with
  | hStep d ih =>
    rw [bodyLines_eq, items_eq, List.filter_append, List.map_append]
    congr 1
    · rw [List.filter_flatMap, List.map_flatMap]
      apply List.flatMap_congr
      intro c hMem
      apply filter_scopeLines
      have hChild : c ∈ d.children := (arrange_perm _ _ _).mem_iff.mp hMem
      have hContents := ih c hChild (path ++ [c.name])
      rw [List.length_append, List.length_singleton] at hContents
      exact hContents
    · rw [List.map_map, List.filter_eq_self.mpr]
      · rfl
      · intro line hMem
        rcases List.mem_map.mp hMem with ⟨r, -, hLine⟩
        rw [← hLine]
        exact (objectItem o.resourceClass path r).notBlank_line

end Header

end ResourcePack

------------------------------------------------------------
-- Everything Said
------------------------------------------------------------

namespace ResourcePack

namespace Header

variable (o : HeaderOptions) (b : Bundle)

/- A namespace below a path, with its indentation. -/
def namespaceAt
    (path below : List String) : Nat × List String :=
  (4 * (path.length + below.length), path ++ below)

/- A namespace can be seen from one step further down. -/
theorem namespaceAt_cons
    (path below : List String)
    (name : String) :
    namespaceAt path (name :: below) =
      namespaceAt (path ++ [name]) below := by
  unfold namespaceAt
  rw [List.length_append, List.length_singleton, List.length_cons,
    List.append_assoc, List.singleton_append]
  congr 1
  omega

/-
  What opening or closing lines say of namespaces: each namespace
  of the tree once, with its indentation.
-/
theorem filterMap_items_perm
    {f : Item → Option (Nat × List String)}
    (hObject : ∀ path r, f (objectItem o.resourceClass path r) = none)
    (hBlock : ∀ path name,
      [openedItem path name, closedItem path name].filterMap f =
        [namespaceAt path [name]])
    (path : List String)
    (d : Directory) :
    ((items o b path d).filterMap f).Perm
      (d.namespaces.map (namespaceAt path)) := by
  induction d using Directory.induction generalizing path with
  | hStep d ih =>
    have hObjects : ∀ rs : List Resource,
        (rs.map (objectItem o.resourceClass path)).filterMap f = [] := by
      intro rs
      rw [List.filterMap_map, List.filterMap_eq_nil_iff]
      intro r _
      exact hObject path r
    rw [items_eq, List.filterMap_append, hObjects, List.append_nil,
      List.filterMap_flatMap, Directory.namespaces_eq, List.map_flatMap]
    refine ((arrange_perm _ _ _).flatMap_right _).trans ?_
    apply List.Perm.flatMap_left
    intro c hChild
    have hAround : (blockItems path c.name
        (items o b (path ++ [c.name]) c)).Perm
          ([openedItem path c.name, closedItem path c.name] ++
            items o b (path ++ [c.name]) c) :=
      (List.perm_append_singleton _ _).cons _
    have hBelow : (c.namespaces.map (List.cons c.name)).map
        (namespaceAt path) =
          c.namespaces.map (namespaceAt (path ++ [c.name])) := by
      rw [List.map_map]
      apply List.map_congr_left
      intro below _
      exact namespaceAt_cons path below c.name
    have hPerm := hAround.filterMap f
    rw [List.filterMap_append, hBlock, List.singleton_append] at hPerm
    rw [List.map_cons, hBelow]
    exact hPerm.trans ((ih c hChild (path ++ [c.name])).cons _)

/- Every namespace of the tree is opened once, at its indentation. -/
theorem opened_items_perm
    (path : List String)
    (d : Directory) :
    ((items o b path d).filterMap Item.opened?).Perm
      (d.namespaces.map (namespaceAt path)) :=
  filterMap_items_perm o b (fun _ _ => rfl) (fun _ _ => rfl) path d

/- The objects are those of the resources in the tree, each once. -/
theorem entries_items_perm
    (path : List String)
    (d : Directory) :
    ((items o b path d).filterMap Item.entry?).Perm
      (d.placements.filterMap fun p =>
        b.resources[p.2]?.map
          (entryOf o.resourceClass (path ++ p.1))) := by
  induction d using Directory.induction generalizing path with
  | hStep d ih =>
    have hObjects : ∀ rs : List Resource,
        (rs.map (objectItem o.resourceClass path)).filterMap Item.entry? =
          rs.map (entryOf o.resourceClass path) := by
      intro rs
      rw [List.filterMap_map, ← List.filterMap_eq_map]
      rfl
    have hHere : (d.resources.map fun i => (([] : List String), i)).filterMap
        (fun p => b.resources[p.2]?.map
          (entryOf o.resourceClass (path ++ p.1))) =
          (b.attached d).map (entryOf o.resourceClass path) := by
      rw [List.filterMap_map, Bundle.attached, List.map_filterMap]
      apply List.filterMap_congr
      intro i _
      rw [Function.comp_apply, List.append_nil]
    rw [items_eq, List.filterMap_append, hObjects, Directory.placements_eq,
      List.filterMap_append, hHere, List.filterMap_flatMap,
      List.filterMap_flatMap]
    refine List.perm_append_comm.trans ?_
    refine List.Perm.append ((arrange_perm _ _ _).map _) ?_
    refine ((arrange_perm _ _ _).flatMap_right _).trans ?_
    apply List.Perm.flatMap_left
    intro c hChild
    have hBlock : (blockItems path c.name
        (items o b (path ++ [c.name]) c)).filterMap Item.entry? =
          (items o b (path ++ [c.name]) c).filterMap Item.entry? := by
      rw [blockItems, List.filterMap_cons_none rfl, List.filterMap_append]
      exact List.append_nil _
    have hBelow : (c.placements.map (Directory.placedUnder c.name)).filterMap
        (fun p => b.resources[p.2]?.map
          (entryOf o.resourceClass (path ++ p.1))) =
          c.placements.filterMap fun p => b.resources[p.2]?.map
            (entryOf o.resourceClass (path ++ [c.name] ++ p.1)) := by
      rw [List.filterMap_map]
      apply List.filterMap_congr
      intro p _
      rw [Function.comp_apply, Directory.placedUnder, List.append_assoc,
        List.singleton_append]
    rw [hBlock, hBelow]
    exact ih c hChild (path ++ [c.name])

end Header

end ResourcePack

------------------------------------------------------------
-- Declarations at One Path
------------------------------------------------------------

namespace ResourcePack

namespace Header

open Directory

variable (o : HeaderOptions) (b : Bundle)

/- What an item declares lies within the path of its directory. -/
theorem prefix_of_mem_items
    {path home : List String}
    {d : Directory}
    {item : Item}
    (hMem : item ∈ items o b path d)
    (hHome : item.home? = some home) :
    path <+: home := by
  induction d using Directory.induction generalizing path with
  | hStep d ih =>
    rw [items_eq, List.mem_append, List.mem_flatMap] at hMem
    rcases hMem with ⟨c, hChild, hBlock⟩ | hObject
    · rw [(arrange_perm _ _ _).mem_iff] at hChild
      rw [blockItems, List.mem_cons, List.mem_append,
        List.mem_singleton] at hBlock
      rcases hBlock with hOpened | hInside | hClosed
      · rw [hOpened, openedItem, Item.home?, List.dropLast_concat,
          Option.some.injEq] at hHome
        exact hHome ▸ List.prefix_refl path
      · have hDeeper := ih c hChild hInside
        exact (List.prefix_append path [c.name]).trans hDeeper
      · rw [hClosed] at hHome
        cases hHome
    · rcases List.mem_map.mp hObject with ⟨r, -, hItem⟩
      rw [← hItem, objectItem, Item.home?, Option.some.injEq] at hHome
      exact hHome ▸ List.prefix_refl path

/- Below another child nothing is declared at a path. -/
theorem declaredIn_blockItems_eq_nil
    {path below : List String}
    {name : String}
    {c : Directory}
    (hName : c.name ≠ name) :
    declaredIn (path ++ name :: below)
        (blockItems path c.name (items o b (path ++ [c.name]) c)) =
      [] := by
  unfold declaredIn
  rw [List.filter_eq_nil_iff]
  intro item hMem hHome
  rw [decide_eq_true_eq] at hHome
  rw [blockItems, List.mem_cons, List.mem_append,
    List.mem_singleton] at hMem
  rcases hMem with hOpened | hInside | hClosed
  · rw [hOpened, openedItem, Item.home?, List.dropLast_concat,
      Option.some.injEq] at hHome
    exact List.cons_ne_nil _ _ (List.self_eq_append_right.mp hHome)
  · have hPrefix := prefix_of_mem_items o b hInside hHome
    rw [List.prefix_append_right_inj, List.cons_prefix_cons] at hPrefix
    exact hName hPrefix.1
  · rw [hClosed] at hHome
    cases hHome

/- The opening and the closing line declare nothing further down. -/
theorem declaredIn_blockItems
    {path below : List String}
    {name : String}
    {contents : List Item} :
    declaredIn (path ++ name :: below) (blockItems path name contents) =
      declaredIn (path ++ [name] ++ below) contents := by
  have hPath : path ++ name :: below = path ++ [name] ++ below := by
    rw [List.append_assoc, List.singleton_append]
  have hOpened : (openedItem path name).home? ≠
      some (path ++ name :: below) := by
    rw [openedItem, Item.home?, List.dropLast_concat]
    intro hHome
    exact List.cons_ne_nil _ _
      (List.self_eq_append_right.mp (Option.some.inj hHome))
  have hClosed : (closedItem path name).home? ≠
      some (path ++ name :: below) := by
    intro hHome
    cases hHome
  unfold declaredIn
  rw [blockItems, List.filter_cons_of_neg (by simpa using hOpened),
    List.filter_append, List.filter_cons_of_neg (by simpa using hClosed),
    List.filter_nil, List.append_nil, hPath]

/- Of a list with different keys, one element alone has something. -/
theorem flatMap_eq_of_unique
    {α β : Type}
    {key : α → String}
    {f : α → List β}
    {xs : List α}
    (hKeys : (xs.map key).Nodup)
    {x : α}
    (hMem : x ∈ xs)
    (hOther : ∀ y, key y ≠ key x → f y = []) :
    xs.flatMap f = f x := by
  induction xs with
  | nil => cases hMem
  | cons first rest ih =>
    rw [List.map_cons, List.nodup_cons] at hKeys
    rw [List.flatMap_cons]
    rcases List.mem_cons.mp hMem with hFirst | hRest
    · have hNone : rest.flatMap f = [] := by
        rw [List.flatMap_eq_nil_iff]
        intro y hY
        apply hOther
        intro hKey
        apply hKeys.1
        rw [← hFirst, ← hKey]
        exact List.mem_map_of_mem hY
      rw [hNone, List.append_nil, hFirst]
    · have hSkip : f first = [] := by
        apply hOther
        intro hKey
        apply hKeys.1
        rw [hKey]
        exact List.mem_map_of_mem hRest
      rw [hSkip, List.nil_append]
      exact ih hKeys.2 hRest

/- In its own directory, a block declares its namespace. -/
theorem declaredIn_blockItems_self
    (path : List String)
    (c : Directory) :
    declaredIn path
        (blockItems path c.name (items o b (path ++ [c.name]) c)) =
      [openedItem path c.name] := by
  have hOpened : (openedItem path c.name).home? = some path := by
    rw [openedItem, Item.home?, List.dropLast_concat]
  have hInside : (items o b (path ++ [c.name]) c).filter
      (fun item => item.home? = some path) = [] := by
    rw [List.filter_eq_nil_iff]
    intro item hMem hHome
    rw [decide_eq_true_eq] at hHome
    have hLength := (prefix_of_mem_items o b hMem hHome).length_le
    rw [List.length_append, List.length_singleton] at hLength
    omega
  have hClosed : (closedItem path c.name).home? ≠ some path := by
    intro hHome
    cases hHome
  unfold declaredIn
  rw [blockItems, List.filter_cons_of_pos (by simpa using hOpened),
    List.filter_append, hInside,
    List.filter_cons_of_neg (by simpa using hClosed)]
  rfl

theorem declaredIn_append
    (path : List String)
    (xs ys : List Item) :
    declaredIn path (xs ++ ys) =
      declaredIn path xs ++ declaredIn path ys :=
  List.filter_append xs ys

theorem declaredIn_flatMap
    {α : Type}
    (path : List String)
    (xs : List α)
    (f : α → List Item) :
    declaredIn path (xs.flatMap f) =
      xs.flatMap fun x => declaredIn path (f x) :=
  List.filter_flatMap

/- Objects are declared in their own namespace. -/
theorem declaredIn_objects_self
    (path : List String)
    (rs : List Resource) :
    declaredIn path (rs.map (objectItem o.resourceClass path)) =
      rs.map (objectItem o.resourceClass path) := by
  unfold declaredIn
  rw [List.filter_eq_self]
  intro item hMem
  rcases List.mem_map.mp hMem with ⟨r, -, hItem⟩
  rw [← hItem]
  exact decide_eq_true rfl

/- Further down they declare nothing. -/
theorem declaredIn_objects_below
    (path below : List String)
    (name : String)
    (rs : List Resource) :
    declaredIn (path ++ name :: below)
      (rs.map (objectItem o.resourceClass path)) = [] := by
  unfold declaredIn
  rw [List.filter_eq_nil_iff]
  intro item hItem hHome
  rcases List.mem_map.mp hItem with ⟨r, -, hEq⟩
  rw [decide_eq_true_eq, ← hEq, objectItem, Item.home?,
    Option.some.injEq] at hHome
  exact List.cons_ne_nil _ _ (List.self_eq_append_right.mp hHome)

/-
  At the path of a directory, exactly its children and its resources
  are declared: first the namespaces, then the objects, both in the
  order that was asked for.
-/
theorem declaredIn_items
    {d e : Directory}
    {below : List String}
    (hSiblings : ∀ path c, At d path c →
      (c.children.map Directory.name).Nodup)
    (hAt : At d below e)
    (path : List String) :
    declaredIn (path ++ below) (items o b path d) =
      (arrange o.order id (e.children.map Directory.name)).map
          (openedItem (path ++ below)) ++
        (arrange o.order Resource.ident (b.attached e)).map
          (objectItem o.resourceClass (path ++ below)) := by
  induction hAt generalizing path with
  | here d =>
    have hBlocks : ∀ cs : List Directory,
        cs.flatMap (fun c => declaredIn path
          (blockItems path c.name (items o b (path ++ [c.name]) c))) =
          cs.map fun c => openedItem path c.name := by
      intro cs
      rw [List.map_eq_flatMap]
      apply List.flatMap_congr
      intro c _
      exact declaredIn_blockItems_self o b path c
    rw [List.append_nil, items_eq, declaredIn_append, declaredIn_flatMap,
      declaredIn_objects_self, hBlocks, arrange_map, List.map_map]
    rfl
  | @step d c e below hChild hBelow ih =>
    have hBelowSiblings : ∀ path c', At c path c' →
        (c'.children.map Directory.name).Nodup := by
      intro path c' hAt
      exact hSiblings _ c' (At.step hChild hAt)
    have hNames : ((arrange o.order Directory.name d.children).map
        Directory.name).Nodup :=
      ((arrange_perm _ _ _).map _).nodup_iff.mpr (hSiblings [] d (At.here d))
    have hMem : c ∈ arrange o.order Directory.name d.children :=
      (arrange_perm _ _ _).mem_iff.mpr hChild
    -- only the block of the child on the way declares something there
    have hOnly : (arrange o.order Directory.name d.children).flatMap
        (fun c' => declaredIn (path ++ c.name :: below)
          (blockItems path c'.name (items o b (path ++ [c'.name]) c'))) =
        declaredIn (path ++ c.name :: below)
          (blockItems path c.name (items o b (path ++ [c.name]) c)) :=
      flatMap_eq_of_unique hNames hMem
        (fun c' hNe => declaredIn_blockItems_eq_nil o b hNe)
    have hPath : path ++ c.name :: below = path ++ [c.name] ++ below := by
      rw [List.append_assoc, List.singleton_append]
    rw [items_eq, declaredIn_append, declaredIn_flatMap,
      declaredIn_objects_below, List.append_nil, hOnly,
      declaredIn_blockItems, ih hBelowSiblings, ← hPath]

end Header

end ResourcePack
