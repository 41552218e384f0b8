import ResourcePack.Proofs.Generation.Run
import ResourcePack.Proofs.Header.References
import ResourcePack.Proofs.Header.Symbols

/-
  Whether the class of the objects can be named where they stand.

  Key definitions include:
    * `ResourcePack.HeaderOptions.IsGlobal`
    * `ResourcePack.HeaderOptions.firstPart`
    * `ResourcePack.Header.Visible`
    * `ResourcePack.Header.AllVisible`
    * `ResourcePack.Header.sameScope`
    * `ResourcePack.Header.placedIn`

  Main declarations:
    * `ResourcePack.Header.objectsIn_allItems`
    * `ResourcePack.Header.path_eq_of_earlier`
    * `ResourcePack.Header.allVisible_iff`

  The class is written before every object as it was given, and no
  name of a directory or of an object is kept free for it.  C++ looks
  for its first part from the innermost namespace outwards, so a
  directory of that name hides it, and so does an object if the class
  is a single identifier.  With `::` at its front it is never hidden.
-/

------------------------------------------------------------
-- Looking Up a Class
------------------------------------------------------------

namespace ResourcePack

namespace HeaderOptions

/- A class name with `::` at its front. -/
def IsGlobal
    (text : String) : Prop :=
  relativeClass text.toList ≠ text.toList

instance : DecidablePred IsGlobal :=
  fun text => inferInstanceAs
    (Decidable (relativeClass text.toList ≠ text.toList))

/- The part of a class name that is looked up first. -/
def firstPart
    (text : String) : String :=
  (classParts text).headD ""

/- A class name without a namespace. -/
def IsSingle
    (text : String) : Prop :=
  (classParts text).length = 1

end HeaderOptions

namespace Header

open HeaderOptions

/-
  Behind items, the first part of a class leads out of the outer
  namespace: in no namespace around has a namespace of that name been
  opened, nor, if it is the whole name, an object been declared.
-/
structure Visible
    (resourceClass : String)
    (items : List Item) : Prop where
  unopened : ∀ path, path <+: around items →
    path ++ [firstPart resourceClass] ∉ openedBy items
  undeclared : IsSingle resourceClass → ∀ n e,
    .object n e ∈ items → e.path <+: around items →
      e.ident ≠ firstPart resourceClass

/- The class can be looked up from the line of every object. -/
def AllVisible
    (o : HeaderOptions)
    (b : Bundle) : Prop :=
  ∀ before n e after,
    allItems o b = before ++ .object n e :: after →
      IsGlobal o.resourceClass ∨ Visible o.resourceClass before

/-
  The resources in the namespace of one of them, in the order of
  their lines.
-/
def sameScope
    (order : Order)
    (policy : Policy)
    (rs : List Resource)
    (r : Resource) : List Resource :=
  arrange order Resource.ident (rs.filter fun r' =>
    (Placed.byName policy r').scope = (Placed.byName policy r).scope)

end Header

end ResourcePack

------------------------------------------------------------
-- Objects of a Namespace
------------------------------------------------------------

namespace ResourcePack

namespace Header

open Directory

/- The resources that are placed in a namespace, in order. -/
def placedIn
    (order : Order)
    (xs : List Placed)
    (path : List String) : List Resource :=
  arrange order Resource.ident
    ((Placed.there xs path).map Placed.resource)

/- The object that an item defines in a namespace. -/
def Item.objectIn?
    (path : List String) : Item → Option Entry
  | .object _ e => if e.path = path then some e else none
  | _ => none

/- The objects that items define in a namespace, in order. -/
def objectsIn
    (path : List String)
    (items : List Item) : List Entry :=
  items.filterMap (Item.objectIn? path)

variable {o : HeaderOptions} {b : Bundle} {xs : List Placed}

theorem objectIn?_eq_some_iff
    {path : List String}
    {item : Item}
    {e : Entry} :
    item.objectIn? path = some e ↔
      (∃ n, item = .object n e) ∧ e.path = path := by
  cases item with
  | object n e' =>
    by_cases hPath : e'.path = path
    · simp only [Item.objectIn?, hPath, if_true, Option.some.injEq,
        Item.object.injEq]
      constructor
      · rintro rfl
        exact ⟨⟨n, rfl, rfl⟩, hPath⟩
      · rintro ⟨⟨-, -, hEq⟩, -⟩
        exact hEq
    · simp only [Item.objectIn?, hPath, if_false, Item.object.injEq]
      constructor
      · intro hNone
        cases hNone
      · rintro ⟨⟨-, -, rfl⟩, hSame⟩
        exact absurd hSame hPath
  | opened n path' => simp [Item.objectIn?]
  | closed n path' => simp [Item.objectIn?]
  | external path' symbol => simp [Item.objectIn?]

theorem mem_objectsIn_iff
    {path : List String}
    {items : List Item}
    {e : Entry} :
    e ∈ objectsIn path items ↔
      (∃ n, .object n e ∈ items) ∧ e.path = path := by
  unfold objectsIn
  simp only [List.mem_filterMap, objectIn?_eq_some_iff]
  constructor
  · rintro ⟨item, hMem, ⟨n, rfl⟩, hPath⟩
    exact ⟨⟨n, hMem⟩, hPath⟩
  · rintro ⟨⟨n, hMem⟩, hPath⟩
    exact ⟨_, hMem, ⟨n, rfl⟩, hPath⟩

theorem objectsIn_eq_declaredIn
    (path : List String)
    (items : List Item) :
    objectsIn path items =
      (declaredIn path items).filterMap Item.entry? := by
  unfold objectsIn declaredIn
  rw [List.filterMap_filter]
  apply List.filterMap_congr
  intro item _
  cases item with
  | object n e =>
    by_cases hPath : e.path = path <;>
      simp [Item.objectIn?, Item.home?, Item.entry?, hPath]
  | opened n path' => simp [Item.objectIn?, Item.entry?]
  | closed n path' => simp [Item.objectIn?, Item.entry?]
  | external path' symbol => simp [Item.objectIn?, Item.entry?]

theorem objectsIn_append
    (path : List String)
    (items items' : List Item) :
    objectsIn path (items ++ items') =
      objectsIn path items ++ objectsIn path items' :=
  List.filterMap_append

/- In the block of symbols no item defines an object. -/
theorem entry?_of_mem_externalsBlock
    {rs : List Resource}
    {item : Item}
    (hMem : item ∈ externalsBlock rs) :
    item.entry? = none :=
  List.filterMap_eq_nil_iff.mp (entry?_externalsBlock rs) item hMem

/-
  What is declared in a namespace: something that defines no object,
  and then the objects of the resources there.
-/
theorem declaredIn_allItems
    (o : HeaderOptions)
    (hHolds : b.Holds xs)
    {path : List String}
    {d : Directory}
    (hAt : At b.tree path d) :
    ∃ openings, (∀ item ∈ openings, item.entry? = none) ∧
      declaredIn path (allItems o b) =
        openings ++ (placedIn o.order xs path).map
          (objectItem o.resourceClass path) := by
  have hDeclared := declaredIn_items o b
    (fun _ _ hAt => hHolds.siblings_nodup hAt) hAt []
  rw [List.nil_append, hHolds.attached_eq hAt] at hDeclared
  rw [allItems, declaredIn_append, hDeclared, ← List.append_assoc]
  refine ⟨_, ?_, rfl⟩
  intro item hMem
  rcases List.mem_append.mp hMem with hBlock | hOpening
  · exact entry?_of_mem_externalsBlock (List.mem_of_mem_filter hBlock)
  · rcases List.mem_map.mp hOpening with ⟨name, -, hItem⟩
    rw [← hItem]
    rfl

/- The objects of a namespace are those of the resources there. -/
theorem objectsIn_allItems
    (o : HeaderOptions)
    (hHolds : b.Holds xs)
    {path : List String}
    {d : Directory}
    (hAt : At b.tree path d) :
    objectsIn path (allItems o b) =
      (placedIn o.order xs path).map (entryOf o.resourceClass path) := by
  rcases declaredIn_allItems o hHolds hAt with
    ⟨openings, hNone, hDeclared⟩
  rw [objectsIn_eq_declaredIn, hDeclared, List.filterMap_append,
    List.filterMap_eq_nil_iff.mpr hNone, List.nil_append,
    List.filterMap_map]
  exact congrFun List.filterMap_eq_map _

theorem exists_placed_of_mem
    (hHolds : b.Holds xs)
    {n : Nat}
    {e : Entry}
    (hMem : .object n e ∈ allItems o b) :
    ∃ x ∈ xs, entryOf o.resourceClass x.scope x.resource = e := by
  have hTree : .object n e ∈ items o b [] b.tree := by
    rcases List.mem_append.mp hMem with hBlock | hTree
    · cases entry?_of_mem_externalsBlock hBlock
    · exact hTree
  have hEntry : e ∈ (items o b [] b.tree).filterMap Item.entry? :=
    List.mem_filterMap.mpr ⟨_, hTree, rfl⟩
  rw [(entries_items o hHolds).mem_iff] at hEntry
  exact List.mem_map.mp hEntry

end Header

end ResourcePack

------------------------------------------------------------
-- Earlier Objects
------------------------------------------------------------

namespace ResourcePack

namespace Header

open Directory

variable {o : HeaderOptions} {b : Bundle} {xs : List Placed}

/- In a namespace, nothing is opened behind an object. -/
theorem not_opened_after
    (hHolds : b.Holds xs)
    {before after : List Item}
    {n : Nat}
    {e : Entry}
    (hSplit : allItems o b = before ++ .object n e :: after)
    {item : Item}
    (hMem : item ∈ declaredIn e.path after) :
    item.opened? = none := by
  have hObject : .object n e ∈ allItems o b := by
    rw [hSplit]
    exact List.mem_append_right _ List.mem_cons_self
  rcases exists_placed_of_mem hHolds hObject with ⟨x, hX, hEntry⟩
  have hScope : x.scope = e.path := congrArg Entry.path hEntry
  rcases hHolds.exists_at_scope hX with ⟨d, hAt⟩
  rw [hScope] at hAt
  rcases declaredIn_allItems o hHolds hAt with
    ⟨openings, hNone, hDeclared⟩
  have hHere : declaredIn e.path (allItems o b) =
      declaredIn e.path before ++
        .object n e :: declaredIn e.path after := by
    rw [hSplit, declaredIn_append]
    congr 1
    exact List.filter_cons_of_pos (decide_eq_true rfl)
  rw [hDeclared] at hHere
  have hLast : item ∈ (placedIn o.order xs e.path).map
      (objectItem o.resourceClass e.path) := by
    rcases List.append_eq_append_iff.mp hHere with
      ⟨between, -, hObjects⟩ | ⟨between, hOpenings, hRest⟩
    · rw [hObjects]
      exact List.mem_append_right _ (List.mem_cons_of_mem _ hMem)
    · cases between with
      | nil =>
        rw [List.nil_append] at hRest
        rw [← hRest]
        exact List.mem_cons_of_mem _ hMem
      | cons first others =>
        -- the object would be among the openings
        rw [List.cons_append, List.cons.injEq] at hRest
        have hFirst : first ∈ openings := by
          rw [hOpenings]
          exact List.mem_append_right _ List.mem_cons_self
        have hEntry := hNone first hFirst
        rw [← hRest.1] at hEntry
        cases hEntry
  rcases List.mem_map.mp hLast with ⟨r, -, hItem⟩
  rw [← hItem]
  rfl

/-
  An earlier object around the line of another one stands in the same
  namespace: further up, the namespaces come first.
-/
theorem path_eq_of_earlier
    (hHolds : b.Holds xs)
    {before after : List Item}
    {n n' : Nat}
    {e e' : Entry}
    (hSplit : allItems o b = before ++ .object n e :: after)
    (hMem : .object n' e' ∈ before)
    (hAround : e'.path <+: around before) :
    e'.path = e.path := by
  rcases List.append_of_mem hMem with ⟨first, second, rfl⟩
  have hSplit' : allItems o b =
      first ++ .object n' e' :: (second ++ .object n e :: after) := by
    rw [hSplit, List.append_assoc, List.cons_append]
  have hStart : first.foldl Item.after [] = e'.path :=
    around_eq_of_split hSplit'
  have hLed : second.foldl Item.after e'.path = e.path := by
    rw [← around_eq_of_split hSplit, around, List.foldl_append,
      hStart]
    rfl
  have hFitting : Fitting e'.path second := by
    have hAll := (closes_allItems o b).fitting
    rw [hSplit', fitting_append_iff, hStart] at hAll
    exact (fitting_append_iff.mp hAll.2.2).1
  rw [around_eq_of_split hSplit] at hAround
  rcases hAround with ⟨below, hBelow⟩
  cases below with
  | nil => rw [← hBelow, List.append_nil]
  | cons name rest =>
    have hNext : e'.path ++ [name] <+: second.foldl Item.after e'.path :=
      hLed ▸ hBelow ▸ ⟨rest, by simp⟩
    rcases mem_openedBy_of_prefix hFitting hNext with hHere | hOpened
    · have hLength := hHere.length_le
      rw [List.length_append, List.length_singleton] at hLength
      omega
    · rcases List.mem_filterMap.mp hOpened with ⟨item, hItem, hPath⟩
      have hHome : item ∈ declaredIn e'.path
          (second ++ .object n e :: after) := by
        apply List.mem_filter.mpr
        refine ⟨List.mem_append_left _ hItem, decide_eq_true ?_⟩
        cases item with
        | opened m path =>
          have hPath' : path = e'.path ++ [name] := Option.some.inj hPath
          rw [Item.home?, hPath', List.dropLast_concat]
        | closed m path => cases hPath
        | external path symbol => cases hPath
        | object m e'' => cases hPath
      have hNone := not_opened_after hHolds hSplit' hHome
      rw [hNone] at hPath
      cases hPath

end Header

end ResourcePack

------------------------------------------------------------
-- Hidden Classes
------------------------------------------------------------

namespace ResourcePack

namespace Header

open Directory HeaderOptions

variable {o : HeaderOptions} {b : Bundle} {xs : List Placed}

/- Where all is visible, no resource lies below the name of the class. -/
theorem AllVisible.not_mem_scope
    (hVisible : AllVisible o b)
    (hLocal : ¬IsGlobal o.resourceClass)
    (hHolds : b.Holds xs)
    {x : Placed}
    (hMem : x ∈ xs) :
    firstPart o.resourceClass ∉ x.scope := by
  intro hScope
  rcases exists_split o hHolds hMem with ⟨before, after, hSplit⟩
  rcases List.append_of_mem hScope with ⟨path, below, hPath⟩
  have hNested : path ++ [firstPart o.resourceClass] <+: x.scope := by
    rw [hPath]
    exact ⟨below, by simp⟩
  rcases mem_openedBy_of_split hSplit hNested with
    ⟨hEncloses, hOpened⟩
  rcases hVisible _ _ _ _ hSplit with hGlobal | hHere
  · exact hLocal hGlobal
  · exact hHere.unopened path hEncloses hOpened

/-
  Where all is visible and the class is a single identifier, only the
  last object of a namespace can have its name.
-/
theorem AllVisible.ident_ne
    (hVisible : AllVisible o b)
    (hLocal : ¬IsGlobal o.resourceClass)
    (hSingle : IsSingle o.resourceClass)
    (hHolds : b.Holds xs)
    {x : Placed}
    (hMem : x ∈ xs)
    {r : Resource}
    (hEarlier : r ∈ (placedIn o.order xs x.scope).dropLast) :
    r.ident ≠ firstPart o.resourceClass := by
  rcases hHolds.exists_at_scope hMem with ⟨d, hAt⟩
  have hObjects := objectsIn_allItems o hHolds hAt
  have hNe : placedIn o.order xs x.scope ≠ [] := by
    intro hNil
    rw [hNil] at hEarlier
    cases hEarlier
  rw [← List.dropLast_append_getLast hNe, List.map_append,
    objectsIn, List.filterMap_eq_append_iff] at hObjects
  rcases hObjects with ⟨first, second, hItems, hFirst, hSecond⟩
  rcases List.filterMap_eq_cons_iff.mp hSecond with
    ⟨between, item, after, hParts, -, hItem, -⟩
  rcases objectIn?_eq_some_iff.mp hItem with ⟨⟨n, rfl⟩, hPath⟩
  rw [hParts, ← List.append_assoc] at hItems
  have hThere : entryOf o.resourceClass x.scope r ∈
      objectsIn x.scope first := by
    rw [objectsIn, hFirst]
    exact List.mem_map_of_mem hEarlier
  rcases (mem_objectsIn_iff.mp hThere).1 with ⟨m, hObject⟩
  rcases hVisible _ _ _ _ hItems with hGlobal | hHere
  · exact absurd hGlobal hLocal
  · apply hHere.undeclared hSingle m _ (List.mem_append_left _ hObject)
    rw [around_eq_of_split hItems]
    exact List.prefix_rfl

/-
  All is visible if no namespace has the name of the class, nor any
  object of a namespace but the last.
-/
theorem allVisible_of_free
    (hHolds : b.Holds xs)
    (hFirst : firstPart o.resourceClass ≠ externalsName)
    (hScopes : ∀ x ∈ xs, firstPart o.resourceClass ∉ x.scope)
    (hIdents : IsSingle o.resourceClass → ∀ x ∈ xs,
      ∀ r ∈ (placedIn o.order xs x.scope).dropLast,
        r.ident ≠ firstPart o.resourceClass) :
    AllVisible o b := by
  intro before n e after hSplit
  refine Or.inr ⟨?_, ?_⟩
  · intro path _ hOpened
    have hAll : path ++ [firstPart o.resourceClass] ∈
        openedBy (allItems o b) := by
      rw [hSplit, openedBy_append]
      exact List.mem_append_left _ hOpened
    rcases (mem_openedBy_allItems_iff o hHolds).mp hAll with
      hTop | ⟨-, x, hX, hPrefix⟩
    · apply hFirst
      have hMem : firstPart o.resourceClass ∈ [externalsName] := by
        rw [← hTop]
        exact List.mem_append_right _ List.mem_cons_self
      exact List.mem_singleton.mp hMem
    · exact hScopes x hX (hPrefix.subset (by simp))
  · intro hSingle n' e' hMem hAround
    have hSame := path_eq_of_earlier hHolds hSplit hMem hAround
    have hObject : .object n e ∈ allItems o b := by
      rw [hSplit]
      exact List.mem_append_right _ List.mem_cons_self
    rcases exists_placed_of_mem hHolds hObject with ⟨x, hX, hEntry⟩
    have hScope : x.scope = e.path := congrArg Entry.path hEntry
    rcases hHolds.exists_at_scope hX with ⟨d, hAt⟩
    -- the earlier object is not the last one of the namespace
    have hHere : objectsIn e.path (.object n e :: after) =
        e :: objectsIn e.path after :=
      List.filterMap_cons_some (if_pos rfl)
    have hEarlier : e' ∈ (objectsIn e.path (allItems o b)).dropLast := by
      rw [hSplit, objectsIn_append, hHere,
        List.dropLast_append_of_ne_nil (List.cons_ne_nil _ _)]
      exact List.mem_append_left _
        (mem_objectsIn_iff.mpr ⟨⟨n', hMem⟩, hSame⟩)
    rw [← hScope, objectsIn_allItems o hHolds hAt, ← List.map_dropLast]
      at hEarlier
    rcases List.mem_map.mp hEarlier with ⟨r, hR, rfl⟩
    exact hIdents hSingle x hX r hR

end Header

end ResourcePack

------------------------------------------------------------
-- Accepted Configurations
------------------------------------------------------------

namespace ResourcePack

namespace Header

open HeaderOptions

theorem sameScope_eq
    (order : Order)
    (policy : Policy)
    (rs : List Resource)
    (r : Resource) :
    sameScope order policy rs r =
      placedIn order (rs.map (Placed.byName policy))
        (Placed.byName policy r).scope := by
  have hResource : Placed.resource ∘ Placed.byName policy = id :=
    funext (Placed.byName_resource policy)
  unfold sameScope placedIn Placed.there
  rw [List.filter_map, List.map_map, hResource, List.map_id]
  rfl

/-
  A class that is not called after the block of symbols can be looked
  up from all objects of a header exactly when it has `::` at its
  front, or no directory has the name of its first part and, if it is
  a single identifier, no object but the last of a namespace has that
  name.  The items are those that are read from the text of the
  header where the names are sanitized.
-/
theorem allVisible_iff
    {c : Config}
    {o : HeaderOptions}
    {rs : List Resource}
    {b : Bundle}
    (hConfig : c.validate = .ok ())
    (hOptions : c.headerOptions = .ok o)
    (hBundle : Bundle.ofResources rs c.policy = .ok b)
    (hFirst : firstPart o.resourceClass ≠ externalsName) :
    (AllVisible o b ↔
      IsGlobal o.resourceClass ∨
        (∀ r ∈ rs, firstPart o.resourceClass ∉
          (Placed.byName c.policy r).scope) ∧
          (IsSingle o.resourceClass → ∀ r ∈ rs,
            ∀ r' ∈ (sameScope o.order c.policy rs r).dropLast,
              r'.ident ≠ firstPart o.resourceClass)) ∧
      ((∀ r ∈ rs, r.Sanitized) →
        read (render b o) =
          some ⟨o.guard, o.includes, o.scope, allItems o b⟩) := by
  have hHolds := (Bundle.holds_ofResources hBundle).2
  refine ⟨⟨?_, ?_⟩, ?_⟩
  · intro hVisible
    by_cases hGlobal : IsGlobal o.resourceClass
    · exact Or.inl hGlobal
    refine Or.inr ⟨?_, ?_⟩
    · intro r hMem
      exact hVisible.not_mem_scope hGlobal hHolds
        (List.mem_map_of_mem hMem)
    · intro hSingle r hMem r' hEarlier
      rw [sameScope_eq] at hEarlier
      exact hVisible.ident_ne hGlobal hSingle hHolds
        (List.mem_map_of_mem hMem) hEarlier
  · rintro (hGlobal | ⟨hScopes, hIdents⟩)
    · intro _ _ _ _ _
      exact Or.inl hGlobal
    · apply allVisible_of_free hHolds hFirst
      · intro x hX
        rcases List.mem_map.mp hX with ⟨r, hMem, rfl⟩
        exact hScopes r hMem
      · intro hSingle x hX r' hEarlier
        rcases List.mem_map.mp hX with ⟨r, hMem, rfl⟩
        rw [← sameScope_eq] at hEarlier
        exact hIdents hSingle r hMem r' hEarlier
  · intro hSanitized
    have hValid := Generation.validate_options hConfig hOptions
    exact read_render (clean_of_validate hValid)
      (Bundle.named_ofResources hSanitized hBundle)

/- A configuration with a class in a namespace. -/
def classConfig : Config :=
  { scope := "res", guard := "RES_H", includes := ["core/r.h"],
    resourceClass := some "core::R", search := ["."],
    order := .sorted }

/- The class can be looked up from two objects in other namespaces. -/
theorem allVisible_sample :
    classConfig.validate = .ok () ∧
      classConfig.headerOptions = .ok sampleOptions ∧
      ∃ b, Bundle.ofResources sample classConfig.policy = .ok b ∧
        AllVisible sampleOptions b ∧
        read (render b sampleOptions) =
          some ⟨"RES_H", ["core/r.h"], "res",
            allItems sampleOptions b⟩ := by
  have hConfig : classConfig.validate = .ok () := by
    decide +kernel
  have hOptions : classConfig.headerOptions = .ok sampleOptions := by
    decide +kernel
  have hBundle : ∃ b,
      Bundle.ofResources sample classConfig.policy = .ok b :=
    ⟨_, rfl⟩
  rcases hBundle with ⟨b, hBundle⟩
  rcases allVisible_iff hConfig hOptions hBundle (by decide +kernel)
    with ⟨hIff, hRead⟩
  refine ⟨hConfig, hOptions, b, hBundle, hIff.mpr (Or.inr ⟨?_, ?_⟩),
    hRead sanitized_sample⟩
  · decide +kernel
  · intro hSingle
    exact absurd hSingle (by unfold IsSingle; decide +kernel)

/- Resources are accepted, and a class without `::` at its front hidden. -/
structure Hides
    (c : Config)
    (o : HeaderOptions)
    (rs : List Resource)
    (b : Bundle) : Prop where
  accepted : c.validate = .ok ()
  options : c.headerOptions = .ok o
  bundle : Bundle.ofResources rs c.policy = .ok b
  isLocal : ¬IsGlobal o.resourceClass
  hidden : ¬AllVisible o b

/- A resource in a directory called like the namespace of the class. -/
def inCore : Resource :=
  ⟨"", "core/a.bin", "/data/core/a.bin", 1, "core_a_bin", "a_bin"⟩

/- Two resources in one namespace. -/
def besides : List Resource := [
  ⟨"", "a.bin", "/data/a.bin", 1, "a_bin", "a_bin"⟩,
  ⟨"", "b.bin", "/data/b.bin", 1, "b_bin", "b_bin"⟩]

/-
  The class `core::R` is hidden by the directory `core`, and a class
  with the name of an object by that object.
-/
theorem hides_class :
    (∃ b, Hides classConfig sampleOptions [inCore] b) ∧
      ∃ b, Hides
        { classConfig with
          resourceClass := some "a_bin", order := .insertion }
        { sampleOptions with
          resourceClass := "a_bin", order := .insertion }
        besides b := by
  constructor
  · have hBundle : ∃ b,
        Bundle.ofResources [inCore] classConfig.policy = .ok b :=
      ⟨_, rfl⟩
    rcases hBundle with ⟨b, hBundle⟩
    have hHolds := (Bundle.holds_ofResources hBundle).2
    refine ⟨b, by decide +kernel, by decide +kernel, hBundle,
      by decide +kernel, ?_⟩
    intro hVisible
    exact hVisible.not_mem_scope (by decide +kernel) hHolds
      (List.mem_map_of_mem List.mem_cons_self) (by decide +kernel)
  · have hBundle : ∃ b,
        Bundle.ofResources besides classConfig.policy = .ok b :=
      ⟨_, rfl⟩
    rcases hBundle with ⟨b, hBundle⟩
    have hHolds := (Bundle.holds_ofResources hBundle).2
    refine ⟨b, by decide +kernel, by decide +kernel, hBundle,
      by decide +kernel, ?_⟩
    intro hVisible
    refine hVisible.ident_ne (by decide +kernel) ?_ hHolds
      (List.mem_map_of_mem List.mem_cons_self)
      (r := besides.head (by decide)) ?_ ?_
    · unfold IsSingle
      decide +kernel
    · decide +kernel
    · decide +kernel

end Header

end ResourcePack
