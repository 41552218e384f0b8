import ResourcePack.Bundle
import ResourcePack.Lookup
import ResourcePack.Proofs.Directory.Contents

/-
  What a bundle holds.

  Key definitions include:
    * `ResourcePack.Placed`
    * `ResourcePack.Placed.full`
    * `ResourcePack.Placed.byName`
    * `ResourcePack.Apart`
    * `ResourcePack.Separate`
    * `ResourcePack.Bundle.Holds`

  Main declarations:
    * `ResourcePack.Bundle.clashBelow_grown_eq_none_iff`
    * `ResourcePack.Bundle.Holds.insert_eq_ok_iff`
    * `ResourcePack.Bundle.Holds.insertAll_isOk_iff`
    * `ResourcePack.Bundle.Holds.insertAll`

  The three parts of a bundle are all determined by one list: the
  resources it took, each with its namespaces.  `Holds` says so,
  and that the list is `Separate`: no two resources in it declare
  the same name.  An insertion is accepted exactly when the list
  stays separate, and then the list is longer by one.
-/

------------------------------------------------------------
-- Placed Resources
------------------------------------------------------------

namespace ResourcePack

/- A resource together with the namespaces it is placed in. -/
structure Placed where
  resource : Resource
  scope : List String
  deriving DecidableEq

namespace Placed

/- The names that lead to a resource, its own last. -/
def full
    (x : Placed) : List String :=
  x.scope ++ [x.resource.ident]

/-
  A resource in the namespaces that its directories give, or at the
  top if they give none.
-/
def byName
    (policy : Policy)
    (r : Resource) : Placed :=
  match Bundle.scopeOf r.name policy with
  | .ok scope => ⟨r, scope⟩
  | .error _ => ⟨r, []⟩

/- Placing a resource does not change it. -/
theorem byName_resource
    (policy : Policy)
    (r : Resource) :
    (byName policy r).resource = r := by
  unfold byName
  cases Bundle.scopeOf r.name policy <;> rfl

/- Where the directories give namespaces, these are taken. -/
theorem byName_eq
    {policy : Policy}
    {r : Resource}
    {scope : List String}
    (hScope : Bundle.scopeOf r.name policy = .ok scope) :
    byName policy r = ⟨r, scope⟩ := by
  unfold byName
  rw [hScope]

/- The placements of a list of resources, by their positions. -/
def placements
    (xs : List Placed) : List Placement :=
  (xs.map scope).zipIdx

theorem mem_placements_iff
    {xs : List Placed}
    {p : Placement} :
    p ∈ placements xs ↔ ∃ x, xs[p.2]? = some x ∧ x.scope = p.1 := by
  rcases p with ⟨scope, i⟩
  simp [placements, List.mem_zipIdx_iff_getElem?]

theorem placements_append
    (xs : List Placed)
    (x : Placed) :
    placements (xs ++ [x]) = placements xs ++ [(x.scope, xs.length)] := by
  simp [placements, List.zipIdx_append]

end Placed

/- Neither of two paths is a part of the way of the other. -/
def Apart
    (a b : List String) : Prop :=
  ¬ a <+: b ∧ ¬ b <+: a

instance
    (a b : List String) :
    Decidable (Apart a b) := by
  unfold Apart
  infer_instance

namespace Apart

theorem symm
    {a b : List String}
    (hApart : Apart a b) :
    Apart b a :=
  ⟨hApart.2, hApart.1⟩

/- Below a common name, being apart is decided further down. -/
theorem cons_iff
    {name : String}
    {a b : List String} :
    Apart (name :: a) (name :: b) ↔ Apart a b := by
  simp [Apart, List.cons_prefix_cons]

/- Paths that begin with different names are apart. -/
theorem of_head_ne
    {name name' : String}
    {a b : List String}
    (hNe : name ≠ name') :
    Apart (name :: a) (name' :: b) := by
  constructor
  · intro hPrefix
    exact hNe (List.cons_prefix_cons.mp hPrefix).1
  · intro hPrefix
    exact hNe (List.cons_prefix_cons.mp hPrefix).1.symm

theorem singleton_iff
    {name name' : String}
    {a : List String} :
    Apart [name] (name' :: a) ↔ name ≠ name' := by
  constructor
  · rintro hApart rfl
    exact hApart.1 (List.prefix_append [name] a)
  · exact of_head_ne

end Apart

/-
  A list of resources that can be declared together: their symbols
  differ, no resource is in the way of another, and the name of the
  block of symbols stays free.
-/
structure Separate
    (xs : List Placed) : Prop where
  distinct : (xs.map fun x => x.resource.symbol).Nodup
  apart : xs.Pairwise fun x y => Apart x.full y.full
  unreserved : ∀ x ∈ xs, x.full.head? ≠ some externalsName

namespace Separate

/- What can be declared together can be declared in part. -/
theorem sublist
    {xs ys : List Placed}
    (hSub : xs.Sublist ys)
    (hSeparate : Separate ys) :
    Separate xs where
  distinct := (hSub.map _).nodup hSeparate.distinct
  apart := hSeparate.apart.sublist hSub
  unreserved x hMem := hSeparate.unreserved x (hSub.subset hMem)

/- One more resource can be declared if nothing has its names. -/
theorem append_singleton_iff
    {xs : List Placed}
    {x : Placed} :
    Separate (xs ++ [x]) ↔
      Separate xs ∧
        (∀ y ∈ xs, y.resource.symbol ≠ x.resource.symbol) ∧
        x.full.head? ≠ some externalsName ∧
        ∀ y ∈ xs, Apart y.full x.full := by
  constructor
  · intro hSeparate
    have hDistinct := hSeparate.distinct
    have hApart := hSeparate.apart
    rw [List.map_append, List.nodup_append] at hDistinct
    rw [List.pairwise_append] at hApart
    refine ⟨hSeparate.sublist (List.sublist_append_left xs [x]), ?_,
      hSeparate.unreserved x (by simp), ?_⟩
    · intro y hMem
      exact hDistinct.2.2 _ (List.mem_map_of_mem hMem) _ (by simp)
    · intro y hMem
      exact hApart.2.2 y hMem x (by simp)
  · rintro ⟨hSeparate, hFresh, hUnreserved, hApart⟩
    constructor
    · rw [List.map_append, List.nodup_append]
      refine ⟨hSeparate.distinct, by simp, ?_⟩
      intro symbol hMem symbol' hMem' hEq
      rcases List.mem_map.mp hMem with ⟨y, hOld, rfl⟩
      rw [List.map_singleton, List.mem_singleton] at hMem'
      exact hFresh y hOld (hEq.trans hMem')
    · rw [List.pairwise_append]
      refine ⟨hSeparate.apart, List.pairwise_singleton _ _, ?_⟩
      intro y hMem z hMem'
      rw [List.mem_singleton.mp hMem']
      exact hApart y hMem
    · intro y hMem
      rcases List.mem_append.mp hMem with hOld | hNew
      · exact hSeparate.unreserved y hOld
      · rw [List.mem_singleton.mp hNew]
        exact hUnreserved

end Separate

end ResourcePack

------------------------------------------------------------
-- The Invariant
------------------------------------------------------------

namespace ResourcePack

namespace Bundle

open Directory

/-
  A bundle holds a list of placed resources that can be declared
  together: its resources are those of the list, its tree grew by
  attaching their positions to their scopes, and its symbols are
  theirs.
-/
structure Holds
    (b : Bundle)
    (xs : List Placed) : Prop where
  resources : b.resources = xs.map Placed.resource
  tree : b.tree = grown "" (Placed.placements xs)
  symbols : b.symbols = (xs.map fun x => x.resource.symbol).zipIdx.reverse
  separate : Separate xs

theorem holds_empty :
    empty.Holds [] where
  resources := rfl
  tree := rfl
  symbols := rfl
  separate := ⟨List.nodup_nil, List.Pairwise.nil, by simp⟩

theorem Holds.size_eq
    {b : Bundle}
    {xs : List Placed}
    (hHolds : b.Holds xs) :
    b.size = xs.length := by
  rw [size, hHolds.resources, List.length_map]

theorem Holds.getElem?_eq
    {b : Bundle}
    {xs : List Placed}
    (hHolds : b.Holds xs)
    (i : Nat) :
    b.resources[i]? = xs[i]?.map Placed.resource := by
  rw [hHolds.resources, List.getElem?_map]

theorem Holds.index_lt
    {b : Bundle}
    {xs : List Placed}
    (hHolds : b.Holds xs)
    {p : Placement}
    (hMem : p ∈ Placed.placements xs) :
    p.2 < b.size := by
  rcases Placed.mem_placements_iff.mp hMem with ⟨x, hGet, -⟩
  rw [hHolds.size_eq]
  exact (List.getElem?_eq_some_iff.mp hGet).1

theorem Holds.position?_eq_some_iff
    {b : Bundle}
    {xs : List Placed}
    (hHolds : b.Holds xs)
    {symbol : String}
    {i : Nat} :
    b.position? symbol = some i ↔
      ∃ x, xs[i]? = some x ∧ x.resource.symbol = symbol := by
  have hKeys : (b.symbols.map Prod.fst).Nodup := by
    rw [hHolds.symbols, List.map_reverse, List.zipIdx_map_fst,
      List.nodup_reverse]
    exact hHolds.separate.distinct
  have hOnce := List.nodup_iff_count_le_one.mp hKeys symbol
  rw [position?, lookup_eq_some_iff_mem hOnce, hHolds.symbols,
    List.mem_reverse, List.mem_zipIdx_iff_getElem?]
  simp

/- A symbol without a position is new. -/
theorem Holds.position?_eq_none_iff
    {b : Bundle}
    {xs : List Placed}
    (hHolds : b.Holds xs)
    {symbol : String} :
    b.position? symbol = none ↔
      ∀ x ∈ xs, x.resource.symbol ≠ symbol := by
  rw [Option.eq_none_iff_forall_ne_some]
  constructor
  · intro hNone x hMem hSymbol
    rcases List.mem_iff_getElem?.mp hMem with ⟨i, hGet⟩
    exact hNone i (hHolds.position?_eq_some_iff.mpr ⟨x, hGet, hSymbol⟩)
  · intro hNew i hSome
    rcases hHolds.position?_eq_some_iff.mp hSome with ⟨x, hGet, hSymbol⟩
    exact hNew x (List.mem_of_getElem? hGet) hSymbol

end Bundle

end ResourcePack

------------------------------------------------------------
-- Clashes
------------------------------------------------------------

namespace ResourcePack

namespace Bundle

open Directory Placement

/- No resource of a grown directory has a name that none placed there has. -/
theorem declared?_grown_eq_none_iff
    {b : Bundle}
    {name ident : String}
    {ps : List Placement} :
    b.declared? (grown name ps) ident = none ↔
      ∀ p ∈ ps, p.1 = [] →
        ∀ r, b.resources[p.2]? = some r → r.ident ≠ ident := by
  simp only [declared?, attached, grown_resources, here, List.find?_eq_none,
    List.mem_filterMap, List.mem_map, List.mem_filter, decide_eq_true_eq]
  constructor
  · intro hNone p hMem hHere r hGet
    exact hNone r ⟨p.2, ⟨p, ⟨hMem, hHere⟩, rfl⟩, hGet⟩
  · rintro hNone r ⟨i, ⟨p, ⟨hMem, hHere⟩, rfl⟩, hGet⟩
    exact hNone p hMem hHere r hGet

/- A grown directory has no child of a name that no placement begins with. -/
theorem child?_grown_eq_none_iff
    {name ns : String}
    {ps : List Placement} :
    (grown name ps).child? ns = none ↔
      ∀ p ∈ ps, p.1.head? ≠ some ns := by
  rw [grown_child?]
  simp only [ite_eq_right_iff, reduceCtorEq, imp_false, mem_firstNames_iff,
    List.head?_eq_some_iff, ne_eq, not_exists, not_and]

/- An identifier that neither a resource nor a namespace has. -/
theorem clashIn_eq_none_iff
    {b : Bundle}
    {scope : List String}
    {d : Directory}
    {ident : String} :
    b.clashIn scope d ident = none ↔
      b.declared? d ident = none ∧ d.child? ident = none := by
  unfold clashIn
  cases b.declared? d ident with
  | some holder => simp
  | none => cases d.child? ident <;> simp

/- Further down there is a clash only in a namespace that is there. -/
theorem clashBelow_cons_eq_none_iff
    {b : Bundle}
    {scope path : List String}
    {d : Directory}
    {ns ident : String} :
    b.clashBelow scope d ident (ns :: path) = none ↔
      b.declared? d ns = none ∧
        ∀ c, d.child? ns = some c →
          b.clashBelow (scope ++ [ns]) c ident path = none := by
  rw [clashBelow]
  cases b.declared? d ns with
  | some holder => simp
  | none => cases d.child? ns <;> simp

/-
  An identifier is free in a grown directory exactly when what was
  placed is apart from it.
-/
theorem clashIn_grown_eq_none_iff
    {b : Bundle}
    {scope : List String}
    {name ident : String}
    {ps : List Placement}
    (hRange : ∀ p ∈ ps, p.2 < b.size) :
    b.clashIn scope (grown name ps) ident = none ↔
      ∀ p ∈ ps, ∀ r, b.resources[p.2]? = some r →
        Apart (p.1 ++ [r.ident]) [ident] := by
  rw [clashIn_eq_none_iff, declared?_grown_eq_none_iff,
    child?_grown_eq_none_iff]
  constructor
  · rintro ⟨hNone, hChild⟩ ⟨full, i⟩ hMem r hGet
    cases full with
    | nil => exact Apart.singleton_iff.mpr (hNone _ hMem rfl r hGet)
    | cons first rest =>
      have hNe : first ≠ ident := by
        rintro rfl
        exact hChild _ hMem rfl
      exact Apart.of_head_ne hNe
  · intro hApart
    constructor
    · rintro ⟨full, i⟩ hMem rfl r hGet
      exact Apart.singleton_iff.mp (hApart _ hMem r hGet)
    · rintro ⟨full, i⟩ hMem hHead
      rcases List.head?_eq_some_iff.mp hHead with ⟨rest, rfl⟩
      have hLt : i < b.resources.length := hRange _ hMem
      have hGet := List.getElem?_eq_getElem hLt
      exact Apart.singleton_iff.mp (hApart _ hMem _ hGet).symm rfl

/-
  On the way from a grown directory to an identifier there is no
  clash exactly when what was placed is apart from that way.
-/
theorem clashBelow_grown_eq_none_iff
    {b : Bundle}
    {scope path : List String}
    {name ident : String}
    {ps : List Placement}
    (hRange : ∀ p ∈ ps, p.2 < b.size) :
    b.clashBelow scope (grown name ps) ident path = none ↔
      ∀ p ∈ ps, ∀ r, b.resources[p.2]? = some r →
        Apart (p.1 ++ [r.ident]) (path ++ [ident]) := by
  induction path generalizing scope name ps with
  | nil => exact clashIn_grown_eq_none_iff hRange
  | cons ns path ih =>
    have hBelow : ∀ p ∈ below ns ps, p.2 < b.size := by
      intro p hMem
      exact hRange (ns :: p.1, p.2) (mem_below_iff.mp hMem)
    rw [clashBelow_cons_eq_none_iff, declared?_grown_eq_none_iff,
      grown_child?]
    constructor
    · rintro ⟨hNone, hDeeper⟩ ⟨full, i⟩ hMem r hGet
      cases full with
      | nil => exact Apart.singleton_iff.mpr (hNone _ hMem rfl r hGet)
      | cons first rest =>
        by_cases hFirst : first = ns
        · subst hFirst
          have hSeen : first ∈ firstNames ps :=
            mem_firstNames_iff.mpr ⟨_, hMem, rest, rfl⟩
          have hFree := (ih hBelow).mp (hDeeper _ (if_pos hSeen))
          exact Apart.cons_iff.mpr
            (hFree (rest, i) (mem_below_iff.mpr hMem) r hGet)
        · exact Apart.of_head_ne hFirst
    · intro hApart
      constructor
      · rintro ⟨full, i⟩ hMem rfl r hGet
        exact Apart.singleton_iff.mp (hApart _ hMem r hGet)
      · intro c hChild
        by_cases hSeen : ns ∈ firstNames ps
        · rw [if_pos hSeen, Option.some.injEq] at hChild
          rw [← hChild, ih hBelow]
          intro p hMem r hGet
          exact Apart.cons_iff.mp
            (hApart _ (mem_below_iff.mp hMem) r hGet)
        · -- what does not exist yet holds nothing
          rw [if_neg hSeen] at hChild
          cases hChild

/- A declaration is free of clashes exactly when it is apart from all others. -/
theorem Holds.clash?_eq_none_iff
    {b : Bundle}
    {xs : List Placed}
    (hHolds : b.Holds xs)
    (path : List String)
    (ident : String) :
    b.clash? path ident = none ↔
      (path ++ [ident]).head? ≠ some externalsName ∧
        ∀ x ∈ xs, Apart x.full (path ++ [ident]) := by
  unfold clash?
  by_cases hReserved : (path ++ [ident]).head? = some externalsName
  · simp [hReserved]
  · rw [if_neg hReserved, hHolds.tree,
      clashBelow_grown_eq_none_iff (fun p hMem => hHolds.index_lt hMem)]
    constructor
    · intro hApart
      refine ⟨hReserved, ?_⟩
      intro x hMem
      rcases List.mem_iff_getElem?.mp hMem with ⟨i, hGet⟩
      have hResource : b.resources[i]? = some x.resource := by
        rw [hHolds.getElem?_eq, hGet]
        rfl
      exact hApart (x.scope, i)
        (Placed.mem_placements_iff.mpr ⟨x, hGet, rfl⟩) _ hResource
    · rintro ⟨-, hApart⟩ p hMem r hGet
      rcases Placed.mem_placements_iff.mp hMem with ⟨x, hGet', hScope⟩
      rw [hHolds.getElem?_eq, hGet'] at hGet
      rw [← Option.some.inj hGet, ← hScope]
      exact hApart x (List.mem_of_getElem? hGet')

end Bundle

end ResourcePack

------------------------------------------------------------
-- Insertion
------------------------------------------------------------

namespace ResourcePack

namespace Bundle

open Directory

/- The bundle with one more resource in it. -/
def extend
    (b : Bundle)
    (x : Placed) : Bundle :=
  ⟨b.resources ++ [x.resource], b.tree.attach x.scope b.size,
    (x.resource.symbol, b.size) :: b.symbols⟩

variable {b : Bundle} {xs : List Placed}

/- One more resource makes the list that is held longer. -/
theorem Holds.extend
    (hHolds : b.Holds xs)
    {x : Placed}
    (hSeparate : Separate (xs ++ [x])) :
    (b.extend x).Holds (xs ++ [x]) where
  resources := by
    rw [List.map_append, ← hHolds.resources]
    rfl
  tree := by
    rw [Placed.placements_append, grown_append, ← hHolds.tree,
      ← hHolds.size_eq]
    rfl
  symbols := by
    rw [List.map_append, List.zipIdx_append, List.reverse_append,
      ← hHolds.symbols]
    simp [Bundle.extend, hHolds.size_eq]
  separate := hSeparate

/-
  An insertion is accepted exactly when the directories give
  namespaces and the resource can be declared with those held.
-/
theorem Holds.insert_eq_ok_iff
    (hHolds : b.Holds xs)
    {r : Resource}
    {policy : Policy}
    {b' : Bundle} :
    b.insert r policy = .ok b' ↔
      (∃ scope, scopeOf r.name policy = .ok scope) ∧
        Separate (xs ++ [Placed.byName policy r]) ∧
        b' = b.extend (Placed.byName policy r) := by
  rw [Separate.append_singleton_iff, Placed.byName_resource,
    ← hHolds.position?_eq_none_iff]
  unfold insert
  cases hSymbol : b.position? r.symbol with
  | some i => simp
  | none =>
    cases hScope : scopeOf r.name policy with
    | error e => simp
    | ok scope =>
      have hClash := hHolds.clash?_eq_none_iff scope r.ident
      have hFull : (⟨r, scope⟩ : Placed).full = scope ++ [r.ident] := rfl
      rw [Placed.byName_eq hScope, hFull, ← hClash]
      cases hCase : b.clash? scope r.ident with
      | some clash => simp [hCase]
      | none => simp [hCase, hHolds.separate, Bundle.extend, eq_comm]

/- An accepted insertion makes the list that is held longer by one. -/
theorem Holds.insert
    (hHolds : b.Holds xs)
    {r : Resource}
    {policy : Policy}
    {b' : Bundle}
    (hInsert : b.insert r policy = .ok b') :
    scopeOf r.name policy = .ok (Placed.byName policy r).scope ∧
      b'.Holds (xs ++ [Placed.byName policy r]) := by
  rcases hHolds.insert_eq_ok_iff.mp hInsert with
    ⟨⟨scope, hScope⟩, hSeparate, rfl⟩
  refine ⟨?_, hHolds.extend hSeparate⟩
  rw [hScope, Placed.byName_eq hScope]

/-
  A list of resources is accepted exactly when all their
  directories give namespaces and everything can be declared
  together.
-/
theorem Holds.insertAll_isOk_iff
    (hHolds : b.Holds xs)
    {policy : Policy}
    {rs : List Resource} :
    (∃ b', b.insertAll policy rs = .ok b') ↔
      (∀ r ∈ rs, ∃ scope, scopeOf r.name policy = .ok scope) ∧
        Separate (xs ++ rs.map (Placed.byName policy)) := by
  induction rs generalizing b xs with
  | nil => simp [Bundle.insertAll, hHolds.separate]
  | cons r rest ih =>
    rw [List.map_cons, List.append_cons, List.forall_mem_cons]
    constructor
    · rintro ⟨b', hAll⟩
      rw [Bundle.insertAll] at hAll
      cases hInsert : b.insert r policy with
      | error e => simp [hInsert] at hAll
      | ok b₁ =>
        rcases hHolds.insert hInsert with ⟨hScope, hHolds₁⟩
        rw [hInsert] at hAll
        rcases (ih hHolds₁).mp ⟨b', hAll⟩ with ⟨hScopes, hSeparate⟩
        exact ⟨⟨⟨_, hScope⟩, hScopes⟩, hSeparate⟩
    · rintro ⟨⟨hScope, hScopes⟩, hSeparate⟩
      have hFirst : Separate (xs ++ [Placed.byName policy r]) :=
        hSeparate.sublist (List.sublist_append_left _ _)
      have hInsert : b.insert r policy =
          .ok (b.extend (Placed.byName policy r)) :=
        hHolds.insert_eq_ok_iff.mpr ⟨hScope, hFirst, rfl⟩
      rcases (ih (hHolds.extend hFirst)).mpr ⟨hScopes, hSeparate⟩ with
        ⟨b', hAll⟩
      refine ⟨b', ?_⟩
      rw [Bundle.insertAll, hInsert]
      exact hAll

theorem Holds.insertAll
    (hHolds : b.Holds xs)
    {policy : Policy}
    {rs : List Resource}
    {b' : Bundle}
    (hAll : b.insertAll policy rs = .ok b') :
    (∀ r ∈ rs,
      scopeOf r.name policy = .ok (Placed.byName policy r).scope) ∧
      b'.Holds (xs ++ rs.map (Placed.byName policy)) := by
  induction rs generalizing b xs with
  | nil =>
    rw [Bundle.insertAll, Except.ok.injEq] at hAll
    subst hAll
    simpa using hHolds
  | cons r rest ih =>
    rw [Bundle.insertAll] at hAll
    cases hInsert : b.insert r policy with
    | error e => simp [hInsert] at hAll
    | ok b₁ =>
      rcases hHolds.insert hInsert with ⟨hScope, hHolds₁⟩
      rw [hInsert] at hAll
      rcases ih hHolds₁ hAll with ⟨hScopes, hHolds'⟩
      rw [List.map_cons, List.append_cons, List.forall_mem_cons]
      exact ⟨⟨hScope, hScopes⟩, hHolds'⟩

/- A bundle of a list of resources holds them, placed by their names. -/
theorem holds_ofResources
    {policy : Policy}
    {rs : List Resource}
    (hBundle : ofResources rs policy = .ok b) :
    (∀ r ∈ rs,
      scopeOf r.name policy = .ok (Placed.byName policy r).scope) ∧
      b.Holds (rs.map (Placed.byName policy)) :=
  holds_empty.insertAll hBundle

theorem resources_ofResources
    {policy : Policy}
    {rs : List Resource}
    (hBundle : ofResources rs policy = .ok b) :
    b.resources = rs := by
  rw [(holds_ofResources hBundle).2.resources, List.map_map]
  calc
    rs.map (Placed.resource ∘ Placed.byName policy) = rs.map id := by
      apply List.map_congr_left
      intro r _
      exact Placed.byName_resource policy r
    _ = rs := List.map_id rs

end Bundle

end ResourcePack
