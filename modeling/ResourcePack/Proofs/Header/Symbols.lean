import ResourcePack.Proofs.Header.Faithful

/-
  The symbols that are read from a header.

  Key definitions include:
    * `ResourcePack.Header.externals`
    * `ResourcePack.Header.arguments`

  Main declarations:
    * `ResourcePack.Header.filterMap_linesOf_render`
    * `ResourcePack.Header.externals_render`
    * `ResourcePack.Header.arguments_render_perm`

  The lines are looked at one by one, without regard to the
  namespaces around them.  Symbols are declared in the order of the
  resources; the objects stand in the order of the tree, and each
  symbol is the first argument of one of them.
-/

------------------------------------------------------------
-- Readers
------------------------------------------------------------

namespace ResourcePack

namespace Header

open Text

/- What a reader finds on a line behind its indentation. -/
def scan
    {α : Type}
    (reader : List Char → Option α)
    (line : String) : Option α :=
  reader (unindented line)

/- The symbols that a header declares. -/
def externals
    (text : String) : List String :=
  (linesOf text).filterMap (scan externalOf?)

/- What stands between the first bracket and the first comma in it. -/
def firstArgument?
    (line : List Char) : Option String := do
  let (_, arguments) ← cut? '(' line
  let (first, _) ← cut? ',' arguments
  return String.ofList first

/-
  The first argument on a line that begins with `constexpr`, which
  may be missing.  Other lines give nothing.
-/
def argumentOf?
    (line : List Char) : Option (Option String) :=
  if "constexpr ".toList.isPrefixOf line then
    some (firstArgument? line)
  else
    none

/- The first arguments on the `constexpr` lines of a header. -/
def arguments
    (text : String) : List (Option String) :=
  (linesOf text).filterMap (scan argumentOf?)

/- The symbol that an item declares. -/
def Item.symbol? : Item → Option String
  | .external _ symbol => some symbol
  | _ => none

/- How the object of a symbol refers to it. -/
def reference
    (symbol : String) : String :=
  externalsName ++ "::" ++ symbol

end Header

end ResourcePack

------------------------------------------------------------
-- From Lines to Items
------------------------------------------------------------

namespace ResourcePack

namespace Header

open Text

variable {α : Type} {reader : List Char → Option α}

/- A reader that finds nothing on blank lines can skip them. -/
theorem filterMap_filter_notBlank
    (hBlank : reader [] = none)
    (lines : List String) :
    (lines.filter notBlank).filterMap (scan reader) =
      lines.filterMap (scan reader) := by
  rw [List.filterMap_filter]
  apply List.filterMap_congr
  intro line _
  by_cases hLine : notBlank line = true
  · rw [if_pos hLine]
  · have hEmpty : line = "" := by
      simpa [notBlank] using hLine
    rw [if_neg hLine, hEmpty]
    exact hBlank.symm

/-
  A reader that finds nothing on directives, openings and closings
  finds in the lines of a header what it finds on its items.
-/
theorem filterMap_linesOf_render
    {o : HeaderOptions}
    {b : Bundle}
    (hClean : o.Clean)
    (hNamed : b.Named)
    (hBlank : reader [] = none)
    (hDirective : ∀ rest, reader ('#' :: rest) = none)
    (hOpening : ∀ rest, reader ('n' :: rest) = none)
    (hClosing : ∀ rest, reader ('\x7d' :: rest) = none) :
    (linesOf (render b o)).filterMap (scan reader) =
      (allItems o b).filterMap fun item => scan reader item.line := by
  have hStart : ∀ {first : String} {rest : List Char} (last : String),
      first.toList = '#' :: rest →
        scan reader (first ++ last) = none := by
    intro first rest last hFirst
    unfold scan unindented
    rw [String.toList_append, hFirst, List.cons_append,
      List.dropWhile_cons_of_neg (by decide)]
    exact hDirective _
  have hEmpty : scan reader "" = none := hBlank
  have hStd : scan reader "#include <cstddef>" = none := hDirective _
  have hClose : scan reader "\x7d" = none := hClosing _
  have hEndif : scan reader "#endif" = none := hDirective _
  have hIncludes : (orBlank (includeLines o)).filterMap (scan reader) =
      [] := by
    rw [List.filterMap_eq_nil_iff]
    intro line hMem
    rcases mem_orBlank hMem with hEq | hMem
    · exact hEq ▸ hEmpty
    · rcases List.mem_map.mp hMem with ⟨file, -, hLine⟩
      rw [← hLine, String.append_assoc]
      exact hStart _ rfl
  have hScope : scan reader (scopeLine o) = none := by
    unfold scopeLine scan unindented
    rw [String.append_assoc, String.toList_append]
    exact hOpening _
  have hInner : (innerLines o b).filterMap (scan reader) =
      (allItems o b).filterMap fun item => scan reader item.line := by
    rw [← filterMap_filter_notBlank hBlank, filter_innerLines,
      List.filterMap_map]
    rfl
  rw [linesOf_render hClean hNamed, lines_eq,
    List.filterMap_cons_none (hStart o.guard rfl),
    List.filterMap_cons_none (hStart o.guard rfl),
    List.filterMap_cons_none hEmpty, List.filterMap_cons_none hStd,
    List.filterMap_append, hIncludes, List.nil_append,
    List.filterMap_cons_none hEmpty, List.filterMap_cons_none hScope,
    List.filterMap_append, hInner, List.filterMap_cons_none hClose,
    List.filterMap_cons_none hEmpty, List.filterMap_cons_none hEndif]
  exact List.append_nil _

end Header

end ResourcePack

------------------------------------------------------------
-- Symbols
------------------------------------------------------------

namespace ResourcePack

namespace Header

open Text Identifier

theorem scan_externalOf?_line
    {path : List String}
    {item : Item}
    (hReadable : item.Readable path) :
    scan externalOf? item.line = item.symbol? := by
  unfold scan
  cases item with
  | opened n path' =>
    rcases hReadable with ⟨name, -, hPath⟩
    rw [hPath, unindented_opened, String.toList_append]
    exact between?_eq_none rfl (by decide)
  | closed n path' =>
    rw [unindented_closed]
    exact between?_eq_none rfl (by decide)
  | external path' symbol =>
    rw [unindented_external, externalOf?, between?_append]
    rfl
  | object n e =>
    rw [unindented_object]
    exact between?_eq_none rfl (by decide)

/- The first argument of an object refers to its symbol. -/
theorem firstArgument?_objectText
    {path : List String}
    {n : Nat}
    {e : Entry}
    (hReadable : (Item.object n e).Readable path) :
    firstArgument? (objectText e) = some (reference e.symbol) := by
  rcases hReadable with ⟨-, hClass, hIdent, hSymbol⟩
  have hHead : '(' ∉ "constexpr const ".toList ++
      (e.resourceClass.toList ++ ' ' :: e.ident.toList) := by
    rw [List.mem_append, List.mem_append, List.mem_cons, not_or, not_or,
      not_or]
    exact ⟨by decide, not_mem_of_isClassName hClass rfl (by decide),
      by decide, hIdent.not_mem rfl⟩
  have hReference : (reference e.symbol).toList =
      "externals::".toList ++ e.symbol.toList := by
    rw [reference, String.toList_append]
    rfl
  have hFirst : ',' ∉ (reference e.symbol).toList := by
    rw [hReference, List.mem_append, not_or]
    exact ⟨by decide, hSymbol.not_mem rfl⟩
  have hText : objectText e =
      ("constexpr const ".toList ++
        (e.resourceClass.toList ++ ' ' :: e.ident.toList)) ++
        '(' :: ((reference e.symbol).toList ++
          ',' :: (" ".toList ++
            ((toString e.size).toList ++ ')' :: [';']))) := by
    rw [hReference]
    unfold objectText
    simp only [List.append_assoc, List.cons_append]
  rw [hText]
  simp only [firstArgument?, cut?_append hHead, cut?_append hFirst,
    Option.bind_eq_bind, Option.bind_some, String.ofList_toList]
  rfl

theorem scan_argumentOf?_line
    {path : List String}
    {item : Item}
    (hReadable : item.Readable path) :
    scan argumentOf? item.line =
      item.entry?.map fun e => some (reference e.symbol) := by
  unfold scan
  cases item with
  | opened n path' =>
    rcases hReadable with ⟨name, -, hPath⟩
    rw [hPath, unindented_opened, String.toList_append]
    rfl
  | closed n path' =>
    rw [unindented_closed]
    rfl
  | external path' symbol =>
    rw [unindented_external, String.toList_append]
    rfl
  | object n e =>
    have hConstexpr : "constexpr ".toList.isPrefixOf (objectText e) =
        true :=
      rfl
    rw [unindented_object, argumentOf?, if_pos hConstexpr,
      firstArgument?_objectText hReadable]
    rfl

/- No symbol is declared among the items of a directory. -/
theorem symbol?_items
    (o : HeaderOptions)
    (b : Bundle)
    (path : List String)
    (d : Directory) :
    (items o b path d).filterMap Item.symbol? = [] := by
  induction d using Directory.induction generalizing path with
  | hStep d ih =>
    rw [items_eq, List.filterMap_append, List.filterMap_flatMap,
      List.filterMap_map, List.append_eq_nil_iff]
    constructor
    · rw [List.flatMap_eq_nil_iff]
      intro c hMem
      have hChild : c ∈ d.children := (arrange_perm _ _ _).mem_iff.mp hMem
      rw [blockItems, List.filterMap_cons_none rfl, List.filterMap_append,
        ih c hChild]
      rfl
    · rw [List.filterMap_eq_nil_iff]
      intro r _
      rfl

theorem symbol?_externalsBlock
    (rs : List Resource) :
    (externalsBlock rs).filterMap Item.symbol? =
      rs.map Resource.symbol := by
  have hInside : (rs.map externalItem).filterMap Item.symbol? =
      rs.map Resource.symbol := by
    rw [List.filterMap_map, ← List.filterMap_eq_map]
    rfl
  rw [externalsBlock, blockItems, List.filterMap_cons_none rfl,
    List.filterMap_append, hInside]
  exact List.append_nil _

theorem entry?_externalsBlock
    (rs : List Resource) :
    (externalsBlock rs).filterMap Item.entry? = [] := by
  have hInside : (rs.map externalItem).filterMap Item.entry? = [] := by
    rw [List.filterMap_map, List.filterMap_eq_nil_iff]
    intro r _
    rfl
  rw [externalsBlock, blockItems, List.filterMap_cons_none rfl,
    List.filterMap_append, hInside]
  rfl

/- The symbols that a header declares are those of its resources. -/
theorem externals_render
    {o : HeaderOptions}
    {b : Bundle}
    (hClean : o.Clean)
    (hNamed : b.Named) :
    externals (render b o) = b.resources.map Resource.symbol := by
  have hItems : ∀ item ∈ allItems o b,
      scan externalOf? item.line = item.symbol? := by
    intro item hMem
    rcases (follows_allItems hClean hNamed).readable item hMem with
      ⟨home, hReadable⟩
    exact scan_externalOf?_line hReadable
  unfold externals
  rw [filterMap_linesOf_render hClean hNamed rfl (fun _ => rfl)
    (fun _ => rfl) (fun _ => rfl), List.filterMap_congr hItems, allItems,
    List.filterMap_append, symbol?_externalsBlock, symbol?_items,
    List.append_nil]

/- Each symbol is the first argument of the object of its resource. -/
theorem arguments_render_perm
    {o : HeaderOptions}
    {b : Bundle}
    {xs : List Placed}
    (hClean : o.Clean)
    (hNamed : b.Named)
    (hHolds : b.Holds xs) :
    (arguments (render b o)).Perm
      ((b.resources.map Resource.symbol).map fun symbol =>
        some (reference symbol)) := by
  have hItems : ∀ item ∈ allItems o b,
      scan argumentOf? item.line =
        item.entry?.map fun e => some (reference e.symbol) := by
    intro item hMem
    rcases (follows_allItems hClean hNamed).readable item hMem with
      ⟨home, hReadable⟩
    exact scan_argumentOf?_line hReadable
  have hRead : arguments (render b o) =
      ((allItems o b).filterMap Item.entry?).map fun e =>
        some (reference e.symbol) := by
    unfold arguments
    rw [filterMap_linesOf_render hClean hNamed rfl (fun _ => rfl)
      (fun _ => rfl) (fun _ => rfl), List.filterMap_congr hItems,
      List.map_filterMap]
  have hSymbols : (xs.map fun x =>
      entryOf o.resourceClass x.scope x.resource).map (fun e =>
        some (reference e.symbol)) =
      (b.resources.map Resource.symbol).map fun symbol =>
        some (reference symbol) := by
    rw [hHolds.resources, List.map_map, List.map_map, List.map_map]
    rfl
  rw [hRead, allItems, List.filterMap_append, entry?_externalsBlock,
    List.nil_append, ← hSymbols]
  exact (entries_items o hHolds).map _

end Header

end ResourcePack
