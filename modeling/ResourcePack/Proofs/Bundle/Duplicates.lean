import ResourcePack.Proofs.Bundle.History
import ResourcePack.Proofs.Bundle.Names

/-
  What a refused insertion tells of the name that is taken.

  Key definitions include:
    * `ResourcePack.Bundle.Declares`
    * `ResourcePack.Bundle.ClashesAt`
    * `ResourcePack.Bundle.TellsDuplicates`

  Main declarations:
    * `ResourcePack.Bundle.clashesAt_of_clash?`
    * `ResourcePack.Bundle.Holds.clashesAt_unique`
    * `ResourcePack.Bundle.Holds.clash?_eq_some_iff`
    * `ResourcePack.Bundle.duplicates_told`

  The way to a new declaration can be barred at every namespace on it
  and at its end, by a resource, by a namespace or by the block of
  symbols.  In a bundle that holds resources that can be declared
  together it is barred at one place at most, so that the first clash
  that is found is the only one.
-/

------------------------------------------------------------
-- Declarations in the Way
------------------------------------------------------------

namespace ResourcePack

namespace Bundle

open Directory

/-
  What declares a name in a scope: a resource that is attached there,
  a namespace there, or the block of symbols at the top.
-/
inductive Declares
    (b : Bundle) : List String → String → Declarer → Prop where
  | resource {scope : List String} {d : Directory} {q : Resource}
      (hAt : At b.tree scope d)
      (hMem : q ∈ b.attached d) :
      Declares b scope q.ident (.resource q.name)
  | scope {scope : List String} {d c : Directory}
      (hAt : At b.tree scope d)
      (hMem : c ∈ d.children) :
      Declares b scope c.name (.scope c.name)
  | externals : Declares b [] externalsName (.scope externalsName)

/-
  A clash on the way of a declaration: its name is the next one of
  the path or, at the end of the path, the identifier, and it is
  declared there.  A namespace is in the way only where no namespace
  is meant: at the end of the path, or as the block of symbols.
-/
structure ClashesAt
    (b : Bundle)
    (path : List String)
    (ident : String)
    (k : Clash) : Prop where
  onWay : k.scope ++ [k.ident] <+: path ∨
    k.scope = path ∧ k.ident = ident
  declared : b.Declares k.scope k.ident k.holder
  barred : k.holder = .scope k.ident →
    k.scope = path ∨ k.scope = [] ∧ k.ident = externalsName

variable {b : Bundle} {path : List String} {ident : String} {k k' : Clash}

/- The name in a clash is one on the way to the identifier. -/
theorem ClashesAt.isPrefix
    (hClash : b.ClashesAt path ident k) :
    k.scope ++ [k.ident] <+: path ++ [ident] := by
  rcases hClash.onWay with hBefore | ⟨hScope, hIdent⟩
  · exact hBefore.trans (List.prefix_append path [ident])
  · exact ⟨[], by rw [List.append_nil, hScope, hIdent]⟩

/- A resource that is found is attached and has the identifier. -/
theorem of_declared?
    {d : Directory}
    {name : String}
    {q : Resource}
    (hFound : b.declared? d name = some q) :
    q ∈ b.attached d ∧ q.ident = name := by
  unfold declared? at hFound
  exact ⟨List.mem_of_find?_eq_some hFound,
    by simpa using List.find?_some hFound⟩

theorem of_child?
    {d c : Directory}
    {name : String}
    (hFound : d.child? name = some c) :
    c ∈ d.children ∧ c.name = name := by
  unfold child? at hFound
  exact ⟨List.mem_of_find?_eq_some hFound,
    by simpa using List.find?_some hFound⟩

/- A clash that is found at the end of a path is one there. -/
theorem clashesAt_of_clashIn
    {d : Directory}
    (hAt : At b.tree path d)
    (hClash : b.clashIn path d ident = some k) :
    b.ClashesAt path ident k := by
  unfold clashIn at hClash
  split at hClash
  · next q hFound =>
    cases hClash
    rcases of_declared? hFound with ⟨hMem, rfl⟩
    exact ⟨.inr ⟨rfl, rfl⟩, .resource hAt hMem, nofun⟩
  · split at hClash
    · next c hFound =>
      cases hClash
      rcases of_child? hFound with ⟨hMem, rfl⟩
      exact ⟨.inr ⟨rfl, rfl⟩, .scope hAt hMem, fun _ => .inl rfl⟩
    · cases hClash

/- A clash that is found further down is one on the whole way. -/
theorem clashesAt_of_clashBelow
    {scope rest : List String}
    {d : Directory}
    (hAt : At b.tree scope d)
    (hClash : b.clashBelow scope d ident rest = some k) :
    b.ClashesAt (scope ++ rest) ident k := by
  induction rest generalizing scope d with
  | nil =>
    rw [List.append_nil]
    exact clashesAt_of_clashIn hAt hClash
  | cons ns rest ih =>
    unfold clashBelow at hClash
    split at hClash
    · next q hFound =>
      cases hClash
      rcases of_declared? hFound with ⟨hMem, rfl⟩
      rw [List.append_cons]
      exact ⟨.inl (List.prefix_append _ _), .resource hAt hMem, nofun⟩
    · split at hClash
      · next c hFound =>
        rcases of_child? hFound with ⟨hMem, rfl⟩
        rw [List.append_cons]
        exact ih (hAt.child hMem) hClash
      · cases hClash

theorem clashesAt_of_clash?
    (hClash : b.clash? path ident = some k) :
    b.ClashesAt path ident k := by
  unfold clash? at hClash
  split at hClash
  · next hReserved =>
    cases hClash
    refine ⟨?_, .externals, fun _ => .inr ⟨rfl, rfl⟩⟩
    cases path with
    | nil => exact .inr ⟨rfl, (Option.some.inj hReserved).symm⟩
    | cons ns rest =>
      rw [show ns = externalsName from Option.some.inj hReserved]
      exact .inl ⟨rest, rfl⟩
  · exact clashesAt_of_clashBelow (At.here b.tree) hClash

end Bundle

end ResourcePack

------------------------------------------------------------
-- The Only Clash
------------------------------------------------------------

namespace ResourcePack

namespace Bundle

open Directory

variable {b : Bundle} {xs : List Placed}
variable {path : List String} {ident : String} {k k' : Clash}

/-
  What is in the way, by the resources that are held: the block of
  symbols, a resource on the way, or the first namespace of a
  resource that lies further on.
-/
inductive Bars
    (xs : List Placed)
    (path : List String)
    (ident : String) : Clash → Prop where
  | externals (hHead : (path ++ [ident]).head? = some externalsName) :
    Bars xs path ident externalsClash
  | resource {x : Placed} (hMem : x ∈ xs)
      (hBefore : x.full <+: path ++ [ident]) :
    Bars xs path ident
      ⟨x.scope, x.resource.ident, .resource x.resource.name⟩
  | scope {x : Placed} (hMem : x ∈ xs)
      (hBehind : path ++ [ident] <+: x.scope) :
    Bars xs path ident ⟨path, ident, .scope ident⟩

theorem head?_of_isPrefix
    {name : String}
    {long : List String}
    (hPrefix : [name] <+: long) :
    long.head? = some name := by
  rcases hPrefix with ⟨rest, rfl⟩
  rfl

theorem scope_prefix_full
    (x : Placed) :
    x.scope <+: x.full :=
  List.prefix_append x.scope [x.resource.ident]

/- In a bundle a clash is with what it holds. -/
theorem Holds.bars_of_clashesAt
    (hHolds : b.Holds xs)
    (hClash : b.ClashesAt path ident k) :
    Bars xs path ident k := by
  have hPrefix := hClash.isPrefix
  rcases k with ⟨scope, name, holder⟩
  rcases hClash with ⟨hOnWay, hDeclared, hBarred⟩
  cases hDeclared with
  | @resource _ d q hAt hMem =>
    rw [hHolds.attached_eq hAt] at hMem
    rcases List.mem_map.mp hMem with ⟨x, hThere, rfl⟩
    have hScope : x.scope = scope := by
      simpa using List.of_mem_filter hThere
    subst hScope
    exact .resource (List.mem_of_mem_filter hThere) hPrefix
  | @scope _ d c hAt hMem =>
    have hChild := hAt.child hMem
    rcases hHolds.at_iff.mp ⟨c, hChild⟩ with hNil | ⟨x, hX, hBehind⟩
    · simp at hNil
    · rcases hBarred rfl with (rfl : scope = path) |
        ⟨(rfl : scope = []), (hName : c.name = externalsName)⟩
      · have hIdent : c.name = ident := by
          simpa using hPrefix.eq_of_length (by simp)
        subst hIdent
        exact .scope hX hBehind
      · -- no namespace of the tree has the name of the block
        have hFull := hBehind.trans (scope_prefix_full x)
        rw [hName] at hFull
        exact absurd (head?_of_isPrefix hFull)
          (hHolds.separate.unreserved x hX)
  | externals => exact .externals (head?_of_isPrefix hPrefix)

/- A resource that is in the way of another one is that resource. -/
theorem Holds.eq_of_prefix
    (hHolds : b.Holds xs)
    {x y : Placed}
    (hX : x ∈ xs)
    (hY : y ∈ xs)
    (hPrefix : x.full <+: y.full) :
    x = y := by
  by_contra hNe
  exact (hHolds.apart_of_ne hX hY hNe).1 hPrefix

/- A resource that is held has no name in the block of symbols. -/
theorem Holds.not_reserved
    (hHolds : b.Holds xs)
    {x : Placed}
    (hX : x ∈ xs)
    (hHead : (path ++ [ident]).head? = some externalsName)
    (hEither : x.full <+: path ++ [ident] ∨ path ++ [ident] <+: x.full) :
    False := by
  apply hHolds.separate.unreserved x hX
  rw [← hHead]
  rcases hEither with ⟨rest, hRest⟩ | ⟨rest, hRest⟩
  · rw [← hRest, List.head?_append_of_ne_nil]
    simp [Placed.full]
  · rw [← hRest, List.head?_append_of_ne_nil]
    simp

/- A resource is not in the way of one whose namespaces lie behind it. -/
theorem Holds.not_bars_both
    (hHolds : b.Holds xs)
    {x y : Placed}
    (hX : x ∈ xs)
    (hY : y ∈ xs)
    (hBefore : x.full <+: path ++ [ident])
    (hBehind : path ++ [ident] <+: y.scope) :
    False := by
  have hPrefix := hBefore.trans hBehind
  have hSame := hHolds.eq_of_prefix hX hY
    (hPrefix.trans (scope_prefix_full y))
  rw [hSame] at hPrefix
  have hLength := hPrefix.length_le
  rw [Placed.full, List.length_append, List.length_singleton] at hLength
  omega

/- Only one thing that is held is in the way. -/
theorem Holds.bars_unique
    (hHolds : b.Holds xs)
    (hBars : Bars xs path ident k)
    (hBars' : Bars xs path ident k') :
    k = k' := by
  cases hBars with
  | externals hHead =>
    cases hBars' with
    | externals => rfl
    | resource hY hBefore =>
      exact (hHolds.not_reserved hY hHead (.inl hBefore)).elim
    | @scope y hY hBehind =>
      exact (hHolds.not_reserved hY hHead
        (.inr (hBehind.trans (scope_prefix_full y)))).elim
  | resource hX hBefore =>
    cases hBars' with
    | externals hHead =>
      exact (hHolds.not_reserved hX hHead (.inl hBefore)).elim
    | resource hY hBefore' =>
      have hSame := (List.prefix_or_prefix_of_prefix hBefore hBefore').elim
        (hHolds.eq_of_prefix hX hY)
        (fun hPrefix => (hHolds.eq_of_prefix hY hX hPrefix).symm)
      rw [hSame]
    | scope hY hBehind =>
      exact (hHolds.not_bars_both hX hY hBefore hBehind).elim
  | @scope x hX hBehind =>
    cases hBars' with
    | externals hHead =>
      exact (hHolds.not_reserved hX hHead
        (.inr (hBehind.trans (scope_prefix_full x)))).elim
    | resource hY hBefore =>
      exact (hHolds.not_bars_both hY hX hBefore hBehind).elim
    | scope => rfl

/- There is at most one clash on the way of a declaration. -/
theorem Holds.clashesAt_unique
    (hHolds : b.Holds xs)
    (hClash : b.ClashesAt path ident k)
    (hClash' : b.ClashesAt path ident k') :
    k = k' :=
  hHolds.bars_unique (hHolds.bars_of_clashesAt hClash)
    (hHolds.bars_of_clashesAt hClash')

/- What is in the way is not apart from the declaration. -/
theorem Holds.clash?_ne_none_of_bars
    (hHolds : b.Holds xs)
    (hBars : Bars xs path ident k) :
    b.clash? path ident ≠ none := by
  intro hNone
  rcases (hHolds.clash?_eq_none_iff path ident).mp hNone with
    ⟨hHead, hApart⟩
  cases hBars with
  | externals hReserved => exact hHead hReserved
  | resource hX hBefore => exact (hApart _ hX).1 hBefore
  | @scope x hX hBehind =>
    exact (hApart x hX).2 (hBehind.trans (scope_prefix_full x))

theorem Holds.clash?_eq_some_iff
    (hHolds : b.Holds xs) :
    b.clash? path ident = some k ↔ b.ClashesAt path ident k := by
  constructor
  · exact clashesAt_of_clash?
  · intro hClash
    have hNe := hHolds.clash?_ne_none_of_bars
      (hHolds.bars_of_clashesAt hClash)
    rcases Option.ne_none_iff_exists'.mp hNe with ⟨k', hFound⟩
    rw [hFound, hHolds.clashesAt_unique (clashesAt_of_clash? hFound) hClash]

end Bundle

end ResourcePack

------------------------------------------------------------
-- Errors
------------------------------------------------------------

namespace ResourcePack

namespace Bundle

variable {b : Bundle} {xs : List Placed} {r : Resource} {policy : Policy}

/- Where keys differ, only one element has the key of an element. -/
theorem filter_key_eq
    {α : Type}
    {key : α → String}
    {as : List α}
    (hKeys : (as.map key).Nodup)
    {a : α}
    (hMem : a ∈ as) :
    as.filter (fun a' => key a' = key a) = [a] := by
  induction as with
  | nil => cases hMem
  | cons first rest ih =>
    rw [List.map_cons, List.nodup_cons] at hKeys
    rcases List.mem_cons.mp hMem with rfl | hRest
    · have hNone : rest.filter (fun a' => key a' = key a) = [] := by
        rw [List.filter_eq_nil_iff]
        intro a' hMem' hKey
        rw [decide_eq_true_eq] at hKey
        exact hKeys.1 (hKey ▸ List.mem_map_of_mem hMem')
      rw [List.filter_cons_of_pos (by simp), hNone]
    · have hNe : key first ≠ key a := by
        intro hKey
        exact hKeys.1 (hKey ▸ List.mem_map_of_mem hRest)
      rw [List.filter_cons_of_neg (by simpa using hNe), ih hKeys.2 hRest]

/- The resources that have a symbol. -/
def havingSymbol
    (b : Bundle)
    (symbol : String) : List Resource :=
  b.resources.filter fun q => q.symbol = symbol

/- The position of a symbol is that of the only resource that has it. -/
theorem Holds.havingSymbol_eq
    (hHolds : b.Holds xs)
    {symbol : String}
    {i : Nat}
    (hPosition : b.position? symbol = some i) :
    b.havingSymbol symbol = [b.resources[i]!] := by
  rcases hHolds.position?_eq_some_iff.mp hPosition with ⟨x, hGet, rfl⟩
  have hResource : b.resources[i]? = some x.resource := by
    rw [hHolds.getElem?_eq, hGet]
    rfl
  have hKeys : (b.resources.map Resource.symbol).Nodup := by
    rw [hHolds.resources, List.map_map]
    exact hHolds.separate.distinct
  rw [List.getElem!_eq_getElem?_getD, hResource, Option.getD_some]
  exact filter_key_eq hKeys (List.mem_of_getElem? hResource)

theorem Holds.havingSymbol_eq_nil
    (hHolds : b.Holds xs)
    {symbol : String}
    (hPosition : b.position? symbol = none) :
    b.havingSymbol symbol = [] := by
  rw [hHolds.position?_eq_none_iff] at hPosition
  unfold havingSymbol
  rw [hHolds.resources, List.filter_eq_nil_iff, List.forall_mem_map]
  intro x hMem
  simpa using hPosition x hMem

/-
  The errors of an insertion: the symbol of the only resource that
  has it, a directory that gives no namespace, or the clash on the
  way of the declaration.
-/
theorem Holds.insert_eq_error_iff
    (hHolds : b.Holds xs)
    {e : Error} :
    b.insert r policy = .error e ↔
      (∃ q, b.havingSymbol r.symbol = [q] ∧
        e = .duplicateSymbol r.symbol q.name r.name) ∨
      b.havingSymbol r.symbol = [] ∧
        (scopeOf r.name policy = .error e ∨
          ∃ path k, scopeOf r.name policy = .ok path ∧
            b.ClashesAt path r.ident k ∧
            e = .duplicateDeclaration k.scope k.ident k.holder r.name) := by
  unfold Bundle.insert
  cases hPosition : b.position? r.symbol with
  | some i =>
    rw [hHolds.havingSymbol_eq hPosition]
    simp [eq_comm]
  | none =>
    rw [hHolds.havingSymbol_eq_nil hPosition]
    cases hScope : scopeOf r.name policy with
    | error e' => simp
    | ok path =>
      simp only [← hHolds.clash?_eq_some_iff]
      cases hClash : b.clash? path r.ident with
      | none => simp [hClash]
      | some k => simp [hClash, eq_comm]

theorem ofDirectory_eq_error
    {component : String}
    {e : Error}
    (hError : Identifier.ofDirectory component policy = .error e) :
    ∃ fault, e = .invalidIdentifier component fault := by
  unfold Identifier.ofDirectory Identifier.sanitize at hError
  cases policy with
  | reject =>
    cases hFault : Identifier.fault? component with
    | some fault =>
      rw [hFault] at hError
      exact ⟨fault, (Except.error.inj hError).symm⟩
    | none =>
      rw [hFault] at hError
      cases hError
  | escape =>
    by_cases hEmpty : component = ""
    · simp only [if_pos hEmpty] at hError
      exact ⟨.empty, (Except.error.inj hError).symm⟩
    · simp only [if_neg hEmpty] at hError
      cases hError

theorem scopeOf_eq_error
    {name : String}
    {e : Error}
    (hError : scopeOf name policy = .error e) :
    ∃ component fault, e = .invalidIdentifier component fault := by
  rcases exists_of_mapM_eq_error hError with ⟨component, -, hFails⟩
  exact ⟨component, ofDirectory_eq_error hFails⟩

/- A duplicate symbol is told of the only resource that has it. -/
theorem Holds.insert_eq_duplicateSymbol_iff
    (hHolds : b.Holds xs)
    {symbol first second : String} :
    b.insert r policy = .error (.duplicateSymbol symbol first second) ↔
      symbol = r.symbol ∧ second = r.name ∧
        ∃ q, b.havingSymbol r.symbol = [q] ∧ first = q.name := by
  rw [hHolds.insert_eq_error_iff]
  constructor
  · rintro (⟨q, hQ, hError⟩ | ⟨-, hScope | ⟨path, k, -, -, hError⟩⟩)
    · cases hError
      exact ⟨rfl, rfl, q, hQ, rfl⟩
    · rcases scopeOf_eq_error hScope with ⟨component, fault, hError⟩
      cases hError
    · cases hError
  · rintro ⟨rfl, rfl, q, hQ, rfl⟩
    exact .inl ⟨q, hQ, rfl⟩

/- A duplicate declaration is told of a clash on the way. -/
theorem Holds.insert_eq_duplicateDeclaration_iff
    (hHolds : b.Holds xs)
    {scope : List String}
    {ident second : String}
    {first : Declarer} :
    b.insert r policy =
        .error (.duplicateDeclaration scope ident first second) ↔
      b.havingSymbol r.symbol = [] ∧ second = r.name ∧
        ∃ path, scopeOf r.name policy = .ok path ∧
          b.ClashesAt path r.ident ⟨scope, ident, first⟩ := by
  rw [hHolds.insert_eq_error_iff]
  constructor
  · rintro (⟨q, -, hError⟩ |
      ⟨hNone, hScope | ⟨path, k, hScope, hClash, hError⟩⟩)
    · cases hError
    · rcases scopeOf_eq_error hScope with ⟨component, fault, hError⟩
      cases hError
    · cases hError
      exact ⟨hNone, rfl, path, hScope, hClash⟩
  · rintro ⟨hNone, rfl, path, hScope, hClash⟩
    exact .inr ⟨hNone, .inr ⟨path, _, hScope, hClash, rfl⟩⟩

end Bundle

end ResourcePack

------------------------------------------------------------
-- Told Scopes
------------------------------------------------------------

namespace ResourcePack

namespace Bundle

open Identifier

theorem exists_intercalate_cons
    (sep word : String)
    (rest : List String) :
    ∃ others, sep.intercalate (word :: rest) = word ++ others := by
  cases rest with
  | nil =>
    exact ⟨"", by rw [String.intercalate_singleton, String.append_empty]⟩
  | cons next rest =>
    exact ⟨sep ++ sep.intercalate (next :: rest),
      by rw [String.intercalate_cons_cons, String.append_assoc]⟩

/- A scope further down is told by another text. -/
theorem scopeName_append_ne
    {scope rest : List String}
    (hWords : ∀ word ∈ rest, IsWord word)
    (hNe : rest ≠ []) :
    scopeName (scope ++ rest) ≠ scopeName scope := by
  intro hSame
  cases scope with
  | nil =>
    cases rest with
    | nil => exact hNe rfl
    | cons word rest =>
      rcases exists_intercalate_cons "::" word rest with ⟨others, hText⟩
      rcases (hWords word List.mem_cons_self).exists_cons with
        ⟨c, cs, hList, hIdent⟩
      have hRoot : word ++ others = "<root>" := hText.symm.trans hSame
      have hChars : c :: (cs ++ others.toList) = "<root>".toList := by
        rw [← hRoot, String.toList_append, hList, List.cons_append]
      have hFirst : c = '<' := (List.cons.inj hChars).1
      rw [hFirst] at hIdent
      exact absurd hIdent (by decide)
  | cons word scope =>
    have hJoined : scopeName (word :: scope ++ rest) =
        "::".intercalate (word :: scope) ++ "::" ++ "::".intercalate rest :=
      String.intercalate_append_of_ne_nil (List.cons_ne_nil _ _) hNe
    have hShort : scopeName (word :: scope) =
        "::".intercalate (word :: scope) :=
      rfl
    rw [hJoined, hShort] at hSame
    have hLength := congrArg String.length hSame
    have hColons : "::".length = 2 := rfl
    rw [String.length_append, String.length_append, hColons] at hLength
    omega

/- Of the scopes on a path, each is told by a text of its own. -/
theorem eq_of_scopeName_eq
    {path scope scope' : List String}
    (hWords : ∀ word ∈ path, IsWord word)
    (hPrefix : scope <+: path)
    (hPrefix' : scope' <+: path)
    (hSame : scopeName scope = scopeName scope') :
    scope = scope' := by
  have hLonger : ∀ short rest : List String, short ++ rest <+: path →
      scopeName (short ++ rest) = scopeName short → rest = [] := by
    intro short rest hOnPath hText
    by_contra hNe
    refine scopeName_append_ne ?_ hNe hText
    intro word hMem
    exact hWords word (hOnPath.subset (List.mem_append_right short hMem))
  rcases List.prefix_or_prefix_of_prefix hPrefix hPrefix' with
    ⟨rest, rfl⟩ | ⟨rest, rfl⟩
  · rw [hLonger scope rest hPrefix' hSame.symm, List.append_nil]
  · rw [hLonger scope' rest hPrefix hSame, List.append_nil]

end Bundle

end ResourcePack

------------------------------------------------------------
-- Refused Insertions
------------------------------------------------------------

namespace ResourcePack

namespace Bundle

/-
  The errors of the insertion of a resource tell what is taken, and
  all of it.

  A duplicate symbol is told exactly if a resource has the symbol of
  the new one; it is the only one, and named first.  A duplicate
  declaration is told exactly if there is a clash on the way through
  the namespaces of the name, when the symbol is free; it is told as
  it is, there is no other clash on the way, and the text that tells
  its scope stands for no other scope on the way.
-/
structure TellsDuplicates
    (b : Bundle)
    (r : Resource)
    (policy : Policy) : Prop where
  symbol_iff :
    (∃ symbol first second, b.insert r policy =
      .error (.duplicateSymbol symbol first second)) ↔
        ∃ q ∈ b.resources, q.symbol = r.symbol
  holder : ∀ symbol first second,
    b.insert r policy = .error (.duplicateSymbol symbol first second) →
      symbol = r.symbol ∧ second = r.name ∧
        ∃ q, b.resources.filter (fun q => q.symbol = r.symbol) = [q] ∧
          first = q.name
  declaration_iff : ∀ scope ident first second,
    b.insert r policy =
        .error (.duplicateDeclaration scope ident first second) ↔
      (∀ q ∈ b.resources, q.symbol ≠ r.symbol) ∧ second = r.name ∧
        ∃ path, scopeOf r.name policy = .ok path ∧
          b.ClashesAt path r.ident ⟨scope, ident, first⟩
  only : ∀ path, scopeOf r.name policy = .ok path →
    ∀ k k', b.ClashesAt path r.ident k → b.ClashesAt path r.ident k' →
      k = k'
  told : ∀ path, scopeOf r.name policy = .ok path →
    ∀ scope scope', scope <+: path → scope' <+: path →
      scopeName scope = scopeName scope' → scope = scope'

theorem havingSymbol_eq_nil_iff
    {b : Bundle}
    {symbol : String} :
    b.havingSymbol symbol = [] ↔ ∀ q ∈ b.resources, q.symbol ≠ symbol := by
  simp [havingSymbol]

/- In a bundle that holds resources all duplicates are told. -/
theorem Holds.tellsDuplicates
    {b : Bundle}
    {xs : List Placed}
    (hHolds : b.Holds xs)
    (r : Resource)
    (policy : Policy) :
    b.TellsDuplicates r policy where
  symbol_iff := by
    simp only [hHolds.insert_eq_duplicateSymbol_iff]
    constructor
    · rintro ⟨symbol, first, second, -, -, q, hQ, -⟩
      have hMem : q ∈ b.havingSymbol r.symbol := by
        rw [hQ]
        exact List.mem_cons_self
      exact ⟨q, List.mem_of_mem_filter hMem,
        by simpa using List.of_mem_filter hMem⟩
    · rintro ⟨q, hMem, hSymbol⟩
      cases hPosition : b.position? r.symbol with
      | none =>
        have hNone := hHolds.havingSymbol_eq_nil hPosition
        exact absurd hSymbol (havingSymbol_eq_nil_iff.mp hNone q hMem)
      | some i =>
        exact ⟨_, _, _, rfl, rfl, _, hHolds.havingSymbol_eq hPosition, rfl⟩
  holder _ _ _ hError := hHolds.insert_eq_duplicateSymbol_iff.mp hError
  declaration_iff _ _ _ _ := by
    rw [hHolds.insert_eq_duplicateDeclaration_iff, havingSymbol_eq_nil_iff]
  only _ _ _ _ hClash hClash' := hHolds.clashesAt_unique hClash hClash'
  told _ hScope _ _ hPrefix hPrefix' hSame :=
    eq_of_scopeName_eq (isWord_of_mem_scope hScope) hPrefix hPrefix' hSame

/-
  Whatever was inserted before, and whichever of it was refused, a
  refused insertion tells the duplicates.
-/
theorem duplicates_told
    (calls : List Call)
    (r : Resource)
    (policy : Policy) :
    (empty.after calls).TellsDuplicates r policy :=
  (holds_after holds_empty calls).2.tellsDuplicates r policy

end Bundle

end ResourcePack
