import ResourcePack.Proofs.Header.Faithful

/-
  What the objects of a header refer to.

  Key definitions include:
    * `ResourcePack.Header.around`
    * `ResourcePack.Header.openedBy`
    * `ResourcePack.Header.FoundIn`
    * `ResourcePack.Header.RefersToBlock`

  Main declarations:
    * `ResourcePack.Header.closes_allItems`
    * `ResourcePack.Header.mem_openedBy_of_prefix_around`
    * `ResourcePack.Header.mem_openedBy_of_split`
    * `ResourcePack.Header.refersToBlock_of_free`
    * `ResourcePack.Header.refersToBlock_iff`

  An object is made with `externals::SYM`, and C++ looks for a
  namespace `externals` from the innermost namespace outwards.  At
  the top that name is kept free for the block of symbols.  Further
  down it is not, and an object inside such a namespace refers to
  that one instead of the block.
-/

------------------------------------------------------------
-- Looking Up a Name
------------------------------------------------------------

namespace ResourcePack

namespace Header

/- The innermost namespace behind items, as a path from the top. -/
def around
    (items : List Item) : List String :=
  items.foldl Item.after []

/- The namespaces that items open. -/
def openedBy
    (items : List Item) : List (List String) :=
  items.filterMap fun item => item.opened?.map Prod.snd

theorem openedBy_append
    (items items' : List Item) :
    openedBy (items ++ items') = openedBy items ++ openedBy items' :=
  List.filterMap_append

/-
  A name in front of `::` is looked for behind items, and found in a
  namespace: the innermost one around in which a namespace of that
  name has been opened.
-/
structure FoundIn
    (items : List Item)
    (name : String)
    (path : List String) : Prop where
  encloses : path <+: around items
  opened : path ++ [name] ∈ openedBy items
  innermost : ∀ inner, inner <+: around items →
    path.length < inner.length → inner ++ [name] ∉ openedBy items

/-
  Among the items of a header there is the object of a resource, and
  its reference is found at the top, where the block of symbols is.
-/
def RefersToBlock
    (resourceClass : String)
    (items : List Item)
    (x : Placed) : Prop :=
  ∃ before after,
    items = before ++ objectItem resourceClass x.scope x.resource :: after ∧
      FoundIn before externalsName []

end Header

end ResourcePack

------------------------------------------------------------
-- Items in their Places
------------------------------------------------------------

namespace ResourcePack

namespace Header

/- An item that is about the namespace that it stands in. -/
def Item.Fits
    (path : List String) : Item → Prop
  | .opened _ path' => ∃ name, path' = path ++ [name]
  | .closed _ path' => path' = path
  | .external path' _ => path' = path
  | .object _ e => e.path = path

/- Items each of which is about the namespace that the others lead to. -/
def Fitting
    (path : List String) : List Item → Prop
  | [] => True
  | item :: rest => item.Fits path ∧ Fitting (item.after path) rest

/- Items that fit and lead back to the namespace they began in. -/
structure Closes
    (path : List String)
    (items : List Item) : Prop where
  fitting : Fitting path items
  back : items.foldl Item.after path = path

/- Of items in a row, the later ones fit where the earlier ones lead. -/
theorem fitting_append_iff
    {path : List String}
    {items items' : List Item} :
    Fitting path (items ++ items') ↔
      Fitting path items ∧
        Fitting (items.foldl Item.after path) items' := by
  induction items generalizing path with
  | nil => simp [Fitting]
  | cons item rest ih => simp [Fitting, ih, and_assoc]

namespace Closes

variable {path : List String} {items items' : List Item}

theorem append
    (hItems : Closes path items)
    (hItems' : Closes path items') :
    Closes path (items ++ items') where
  fitting := by
    rw [fitting_append_iff, hItems.back]
    exact ⟨hItems.fitting, hItems'.fitting⟩
  back := by
    rw [List.foldl_append, hItems.back]
    exact hItems'.back

/- Lists of items that each lead back lead back one after the other. -/
theorem flatMap
    {α : Type}
    {f : α → List Item}
    {xs : List α}
    (hItems : ∀ x ∈ xs, Closes path (f x)) :
    Closes path (xs.flatMap f) := by
  induction xs with
  | nil => exact ⟨trivial, rfl⟩
  | cons x xs ih =>
    rw [List.forall_mem_cons] at hItems
    rw [List.flatMap_cons]
    exact hItems.1.append (ih hItems.2)

/- Items that fit and lead nowhere. -/
theorem map
    {α : Type}
    {f : α → Item}
    (hItems : ∀ x, (f x).Fits path ∧ (f x).after path = path)
    (xs : List α) :
    Closes path (xs.map f) := by
  rw [List.map_eq_flatMap]
  apply flatMap
  intro x _
  exact ⟨⟨(hItems x).1, trivial⟩, (hItems x).2⟩

/- A namespace block leads back behind its closing line. -/
theorem blockItems
    {name : String}
    (hItems : Closes (path ++ [name]) items) :
    Closes path (Header.blockItems path name items) where
  fitting := by
    refine ⟨⟨name, rfl⟩, ?_⟩
    rw [fitting_append_iff]
    refine ⟨hItems.fitting, ?_, trivial⟩
    exact hItems.back.symm
  back := by
    have hLast : (closedItem path name).after (path ++ [name]) = path :=
      List.dropLast_concat
    unfold Header.blockItems
    rw [List.foldl_cons, List.foldl_append]
    exact (congrArg _ hItems.back).trans hLast

end Closes

/- The items of a directory are those of the path they are listed for. -/
theorem closes_items
    (o : HeaderOptions)
    (b : Bundle)
    (path : List String)
    (d : Directory) :
    Closes path (items o b path d) := by
  induction d using Directory.induction generalizing path with
  | hStep d ih =>
    have hObject : ∀ r, (objectItem o.resourceClass path r).Fits path ∧
        (objectItem o.resourceClass path r).after path = path :=
      fun _ => ⟨rfl, rfl⟩
    rw [items_eq]
    refine Closes.append (Closes.flatMap ?_) (Closes.map hObject _)
    intro c hMem
    have hChild : c ∈ d.children := (arrange_perm _ _ _).mem_iff.mp hMem
    exact (ih c hChild (path ++ [c.name])).blockItems

/- All items inside the outer namespace lead back to it. -/
theorem closes_allItems
    (o : HeaderOptions)
    (b : Bundle) :
    Closes [] (allItems o b) := by
  have hExternal : ∀ r, (externalItem r).Fits [externalsName] ∧
      (externalItem r).after [externalsName] = [externalsName] :=
    fun _ => ⟨rfl, rfl⟩
  have hBlock : Closes [] (externalsBlock b.resources) :=
    Closes.blockItems (Closes.map hExternal b.resources)
  exact hBlock.append (closes_items o b [] b.tree)

/-
  Whatever namespace items lead to, it and those around it were
  there before or have been opened by them.
-/
theorem mem_openedBy_of_prefix
    {path : List String}
    {items : List Item}
    (hFitting : Fitting path items)
    {inner : List String}
    (hPrefix : inner <+: items.foldl Item.after path) :
    inner <+: path ∨ inner ∈ openedBy items := by
  induction items generalizing path with
  | nil => exact Or.inl hPrefix
  | cons item rest ih =>
    have hLater : inner ∈ openedBy rest →
        inner ∈ openedBy (item :: rest) := by
      intro hMem
      exact (List.sublist_cons_self item rest).filterMap _ |>.subset hMem
    rcases ih hFitting.2 hPrefix with hHere | hMem
    · cases item with
      | opened n path' =>
        rcases hFitting.1 with ⟨name, hPath⟩
        have hHere' : inner <+: path ++ [name] := hPath ▸ hHere
        rcases List.prefix_concat_iff.mp hHere' with hSelf | hAbove
        · have hFirst : inner ∈ openedBy (.opened n path' :: rest) := by
            rw [hSelf, ← hPath]
            exact List.mem_cons_self
          exact Or.inr hFirst
        · exact Or.inl hAbove
      | closed n path' =>
        exact Or.inl (hHere.trans (List.dropLast_prefix path))
      | external path' symbol => exact Or.inl hHere
      | object n e => exact Or.inl hHere
    · exact Or.inr (hLater hMem)

/- Every namespace around has been opened, apart from the outer one. -/
theorem mem_openedBy_of_prefix_around
    {items : List Item}
    (hFitting : Fitting [] items)
    {inner : List String}
    (hPrefix : inner <+: around items)
    (hNe : inner ≠ []) :
    inner ∈ openedBy items := by
  rcases mem_openedBy_of_prefix hFitting hPrefix with hNil | hMem
  · exact absurd (List.prefix_nil.mp hNil) hNe
  · exact hMem

end Header

end ResourcePack

------------------------------------------------------------
-- References to the Block
------------------------------------------------------------

namespace ResourcePack

namespace Header

open Directory

variable {b : Bundle} {xs : List Placed}

theorem objectItem_mem_allItems
    (o : HeaderOptions)
    (hHolds : b.Holds xs)
    {x : Placed}
    (hMem : x ∈ xs) :
    objectItem o.resourceClass x.scope x.resource ∈
      items o b [] b.tree := by
  rcases hHolds.exists_at_scope hMem with ⟨d, hAt⟩
  have hDeclared := declaredIn_items o b
    (fun _ _ hAt => hHolds.siblings_nodup hAt) hAt []
  have hAttached : x.resource ∈ b.attached d := by
    rw [hHolds.attached_eq hAt]
    exact List.mem_map_of_mem
      (List.mem_filter.mpr ⟨hMem, decide_eq_true rfl⟩)
  have hObject : objectItem o.resourceClass x.scope x.resource ∈
      declaredIn ([] ++ x.scope) (items o b [] b.tree) := by
    rw [hDeclared]
    apply List.mem_append_right
    exact List.mem_map_of_mem ((arrange_perm _ _ _).mem_iff.mpr hAttached)
  exact List.mem_of_mem_filter hObject

/- All items are some, the object of a resource, and some more. -/
theorem exists_split
    (o : HeaderOptions)
    (hHolds : b.Holds xs)
    {x : Placed}
    (hMem : x ∈ xs) :
    ∃ before after, allItems o b =
      before ++ objectItem o.resourceClass x.scope x.resource :: after :=
  List.append_of_mem
    (List.mem_append_right _ (objectItem_mem_allItems o hHolds hMem))

/- An object stands in the namespace that the items before it lead to. -/
theorem around_eq_of_split
    {o : HeaderOptions}
    {before after : List Item}
    {n : Nat}
    {e : Entry}
    (hSplit : allItems o b = before ++ .object n e :: after) :
    around before = e.path := by
  have hFitting := (closes_allItems o b).fitting
  rw [hSplit, fitting_append_iff] at hFitting
  exact hFitting.2.1.symm

/- Before an object, the namespaces that it stands in were opened. -/
theorem mem_openedBy_of_split
    {o : HeaderOptions}
    {before after : List Item}
    {n : Nat}
    {e : Entry}
    (hSplit : allItems o b = before ++ .object n e :: after)
    {path : List String}
    {name : String}
    (hPrefix : path ++ [name] <+: e.path) :
    path <+: around before ∧ path ++ [name] ∈ openedBy before := by
  have hFitting := (closes_allItems o b).fitting
  rw [hSplit, fitting_append_iff] at hFitting
  rw [← around_eq_of_split hSplit] at hPrefix
  constructor
  · exact (List.prefix_append path [name]).trans hPrefix
  · exact mem_openedBy_of_prefix_around hFitting.1 hPrefix (by simp)

/- What the items of a header open: the block and the namespaces. -/
theorem mem_openedBy_allItems_iff
    (o : HeaderOptions)
    (hHolds : b.Holds xs)
    {path : List String} :
    path ∈ openedBy (allItems o b) ↔
      path = [externalsName] ∨
        path ≠ [] ∧ ∃ x ∈ xs, path <+: x.scope := by
  have hBlock : openedBy (externalsBlock b.resources) =
      [[externalsName]] := by
    have hInside : openedBy (b.resources.map externalItem) = [] := by
      unfold openedBy
      rw [List.filterMap_map, List.filterMap_eq_nil_iff]
      intro r _
      rfl
    have hOpening : openedBy (externalsBlock b.resources) =
        [externalsName] :: openedBy (b.resources.map externalItem ++
          [closedItem [] externalsName]) :=
      rfl
    rw [hOpening, openedBy_append, hInside]
    rfl
  have hTree : (openedBy (items o b [] b.tree)).Perm
      b.tree.namespaces := by
    have hPerm := (opened_items_perm o b [] b.tree).map Prod.snd
    rw [List.map_filterMap, List.map_map] at hPerm
    have hPaths : b.tree.namespaces.map
        (Prod.snd ∘ namespaceAt []) = b.tree.namespaces :=
      List.map_id _
    rw [hPaths] at hPerm
    exact hPerm
  rw [← mem_namespaces_tree_iff hHolds, ← hTree.mem_iff,
    ← List.mem_singleton (a := path), ← hBlock, ← List.mem_append,
    ← openedBy_append]
  rfl

/-
  Behind items that lead to an object, the block of symbols has been
  opened at the top.
-/
theorem externals_mem_openedBy
    {o : HeaderOptions}
    {before after : List Item}
    {n : Nat}
    {e : Entry}
    (hSplit : allItems o b = before ++ .object n e :: after) :
    [externalsName] ∈ openedBy before := by
  have hHead : ∃ rest, allItems o b =
      openedItem [] externalsName :: rest :=
    ⟨_, rfl⟩
  rcases hHead with ⟨rest, hHead⟩
  rw [hHead] at hSplit
  cases before with
  | nil => cases hSplit
  | cons first others =>
    rw [List.cons_append, List.cons.injEq] at hSplit
    rw [← hSplit.1]
    exact List.mem_cons_self

/-
  Where no namespace is called `externals`, every object refers to
  the block of symbols.
-/
theorem refersToBlock_of_free
    (o : HeaderOptions)
    (hHolds : b.Holds xs)
    (hFree : ∀ x ∈ xs, externalsName ∉ x.scope)
    {x : Placed}
    (hMem : x ∈ xs) :
    RefersToBlock o.resourceClass (allItems o b) x := by
  rcases exists_split o hHolds hMem with ⟨before, after, hSplit⟩
  refine ⟨before, after, hSplit, ?_⟩
  constructor
  · exact List.nil_prefix
  · exact externals_mem_openedBy hSplit
  · intro inner _ hLonger hOpened
    have hAll : inner ++ [externalsName] ∈ openedBy (allItems o b) := by
      rw [hSplit, openedBy_append]
      exact List.mem_append_left _ hOpened
    rcases (mem_openedBy_allItems_iff o hHolds).mp hAll with
      hTop | ⟨-, y, hY, hPrefix⟩
    · have hLength := congrArg List.length hTop
      rw [List.length_append] at hLength
      simp only [List.length_nil, List.length_singleton] at hLonger hLength
      omega
    · exact hFree y hY (hPrefix.subset (by simp))

/-
  An object inside a namespace called `externals` does not refer to
  the block of symbols: that namespace is nearer.
-/
theorem not_refersToBlock_of_mem_scope
    (o : HeaderOptions)
    (hHolds : b.Holds xs)
    {x : Placed}
    (hMem : x ∈ xs)
    (hScope : externalsName ∈ x.scope) :
    ¬RefersToBlock o.resourceClass (allItems o b) x := by
  rintro ⟨before, after, hSplit, hFound⟩
  rcases List.append_of_mem hScope with ⟨path, below, hPath⟩
  have hNe : path ≠ [] := by
    rintro rfl
    apply hHolds.separate.unreserved x hMem
    rw [Placed.full, hPath]
    rfl
  have hNested : path ++ [externalsName] <+: x.scope := by
    rw [hPath]
    exact ⟨below, by simp⟩
  rcases mem_openedBy_of_split hSplit hNested with
    ⟨hEncloses, hOpened⟩
  apply hFound.innermost path hEncloses ?_ hOpened
  rw [List.length_nil]
  exact List.length_pos_of_ne_nil hNe

/-
  All objects of a bundle refer to the block of symbols exactly when
  no resource lies in a namespace called `externals`, at any depth.
  Where the options are accepted and the names are sanitized, the
  items are those that are read from the text of the header.
-/
theorem refersToBlock_iff
    {rs : List Resource}
    {policy : Policy}
    {b : Bundle}
    (o : HeaderOptions)
    (hBundle : Bundle.ofResources rs policy = .ok b) :
    ((∀ r ∈ rs, RefersToBlock o.resourceClass (allItems o b)
        (Placed.byName policy r)) ↔
      ∀ r ∈ rs, externalsName ∉ (Placed.byName policy r).scope) ∧
      (o.validate = .ok () → (∀ r ∈ rs, r.Sanitized) →
        read (render b o) =
          some ⟨o.guard, o.includes, o.scope, allItems o b⟩) := by
  have hHolds := (Bundle.holds_ofResources hBundle).2
  refine ⟨⟨?_, ?_⟩, ?_⟩
  · intro hRefers r hMem hScope
    exact not_refersToBlock_of_mem_scope o hHolds
      (List.mem_map_of_mem hMem) hScope (hRefers r hMem)
  · intro hFree r hMem
    apply refersToBlock_of_free o hHolds ?_ (List.mem_map_of_mem hMem)
    intro x hX
    rcases List.mem_map.mp hX with ⟨r', hR', rfl⟩
    exact hFree r' hR'
  · intro hValid hSanitized
    exact read_render (HeaderOptions.clean_of_validate hValid)
      (Bundle.named_ofResources hSanitized hBundle)

theorem refersToBlock_sample :
    ∃ b, Bundle.ofResources sample .reject = .ok b ∧
      (∀ r ∈ sample, externalsName ∉ (Placed.byName .reject r).scope) ∧
      (∀ r ∈ sample, RefersToBlock sampleOptions.resourceClass
        (allItems sampleOptions b) (Placed.byName .reject r)) ∧
      read (render b sampleOptions) =
        some ⟨"RES_H", ["core/r.h"], "res", allItems sampleOptions b⟩ := by
  have hBundle : ∃ b, Bundle.ofResources sample .reject = .ok b :=
    ⟨_, rfl⟩
  have hFree : ∀ r ∈ sample,
      externalsName ∉ (Placed.byName .reject r).scope := by
    decide +kernel
  rcases hBundle with ⟨b, hBundle⟩
  rcases refersToBlock_iff sampleOptions hBundle with ⟨hIff, hRead⟩
  exact ⟨b, hBundle, hFree, hIff.mpr hFree, hRead rfl sanitized_sample⟩

/- A resource with a directory `externals` further down. -/
def nested : Resource :=
  ⟨"", "data/externals/a.bin", "/data/externals/a.bin", 1,
    "data_externals_a_bin", "a_bin"⟩

/- It is accepted, and its object does not refer to the block. -/
theorem not_refersToBlock_nested :
    ∃ b, Bundle.ofResources [nested] .reject = .ok b ∧
      ¬∀ r ∈ [nested], RefersToBlock sampleOptions.resourceClass
        (allItems sampleOptions b) (Placed.byName .reject r) := by
  have hBundle : ∃ b, Bundle.ofResources [nested] .reject = .ok b :=
    ⟨_, rfl⟩
  have hScope : externalsName ∈
      (Placed.byName .reject nested).scope := by
    decide +kernel
  rcases hBundle with ⟨b, hBundle⟩
  have hHolds := (Bundle.holds_ofResources hBundle).2
  refine ⟨b, hBundle, ?_⟩
  intro hRefers
  exact not_refersToBlock_of_mem_scope sampleOptions hHolds
    (List.mem_map_of_mem List.mem_cons_self) hScope
    (hRefers nested List.mem_cons_self)

end Header

end ResourcePack
