import ResourcePack.Proofs.Bundle.Names
import ResourcePack.Proofs.Header.Reader

/-
  The header that is read back from its text.

  Key definitions include:
    * `ResourcePack.Header.externalsBlock`
    * `ResourcePack.Header.allItems`
    * `ResourcePack.Header.innerLines`

  Main declarations:
    * `ResourcePack.Header.filter_innerLines`
    * `ResourcePack.Header.isLine_of_mem_lines`
    * `ResourcePack.Header.linesOf_render`
    * `ResourcePack.Header.read_render`

  Where all names are words and the options are clean, every line
  of a header is one line of its text, and the reader finds the
  options, the block of symbols and the items of the tree.
-/

------------------------------------------------------------
-- Items of a Tree
------------------------------------------------------------

namespace ResourcePack

namespace Header

open Directory Identifier

/- The items of a directory can be read one after the other. -/
theorem follows_items
    {o : HeaderOptions}
    {b : Bundle}
    (hClean : o.Clean)
    (hSymbols : ∀ r ∈ b.resources, IsWord r.symbol)
    (hIdents : ∀ r ∈ b.resources, IsWord r.ident)
    {d : Directory}
    (hScopes : ∀ below e, At d below e → ∀ name ∈ below, IsWord name)
    (path : List String) :
    Follows path (items o b path d) path := by
  induction d using Directory.induction generalizing path with
  | hStep d ih =>
    rw [items_eq]
    refine Follows.append (Follows.flatMap ?_) (Follows.of_after_eq ?_)
    · intro c hMem
      have hChild : c ∈ d.children := (arrange_perm _ _ _).mem_iff.mp hMem
      have hName : IsWord c.name :=
        hScopes [c.name] c (At.step hChild (At.here c)) c.name
          List.mem_cons_self
      apply Follows.blockItems hName
      apply ih c hChild
      intro below e hAt name hIn
      exact hScopes (c.name :: below) e (At.step hChild hAt) name
        (List.mem_cons_of_mem _ hIn)
    · intro item hMem
      rcases List.mem_map.mp hMem with ⟨r, hR, hItem⟩
      have hResource : r ∈ b.resources :=
        Bundle.mem_resources_of_mem_attached ((arrange_perm _ _ _).mem_iff.mp hR)
      rw [← hItem]
      exact ⟨⟨rfl, hClean.resourceClass, hIdents r hResource,
        hSymbols r hResource⟩, rfl⟩

end Header

end ResourcePack

------------------------------------------------------------
-- Lines
------------------------------------------------------------

namespace ResourcePack

namespace Header

open Text Identifier

/- The item that declares the symbol of a resource. -/
def externalItem
    (r : Resource) : Item :=
  .external [externalsName] r.symbol

/- The items of the block of symbols. -/
def externalsBlock
    (rs : List Resource) : List Item :=
  blockItems [] externalsName (rs.map externalItem)

/- All items inside the outer namespace. -/
def allItems
    (o : HeaderOptions)
    (b : Bundle) : List Item :=
  externalsBlock b.resources ++ items o b [] b.tree

/- The lines that name the files to include. -/
def includeLines
    (o : HeaderOptions) : List String :=
  o.includes.map fun file => "#include \"" ++ file ++ "\""

/- The line that opens the outer namespace. -/
def scopeLine
    (o : HeaderOptions) : String :=
  "namespace " ++ o.scope ++ " \x7b"

/- The lines inside the outer namespace. -/
def innerLines
    (o : HeaderOptions)
    (b : Bundle) : List String :=
  ("    namespace " ++ externalsName ++ " \x7b") ::
    (orBlank (b.resources.map externLine) ++
      ("    \x7d" :: "" :: orBlank (bodyLines o b 1 b.tree)))

theorem lines_eq
    (o : HeaderOptions)
    (b : Bundle) :
    lines o b =
      ("#ifndef " ++ o.guard) :: ("#define " ++ o.guard) :: "" ::
        "#include <cstddef>" ::
          (orBlank (includeLines o) ++ "" :: scopeLine o ::
            (innerLines o b ++ ["\x7d", "", "#endif"])) := by
  unfold lines innerLines includeLines scopeLine
  simp only [List.append_assoc, List.cons_append, List.nil_append]

/- The lines inside the outer namespace are those of all items. -/
theorem filter_innerLines
    (o : HeaderOptions)
    (b : Bundle) :
    (innerLines o b).filter notBlank =
      (allItems o b).map Item.line := by
  have hOpened : "    namespace " ++ externalsName ++ " \x7b" =
      (openedItem [] externalsName).line := by
    decide
  have hClosed : "    \x7d" = (closedItem [] externalsName).line := by
    decide
  have hExternals : (b.resources.map externLine).filter notBlank =
      (b.resources.map externalItem).map Item.line := by
    rw [List.map_map, List.filter_eq_self.mpr]
    · rfl
    · intro line hMem
      rcases List.mem_map.mp hMem with ⟨r, -, hLine⟩
      rw [← hLine]
      exact (externalItem r).notBlank_line
  have hBody : (bodyLines o b 1 b.tree).filter notBlank =
      (items o b [] b.tree).map Item.line :=
    filter_bodyLines o b [] b.tree
  unfold innerLines allItems externalsBlock blockItems
  rw [hOpened, hClosed, List.filter_cons_of_pos (Item.notBlank_line _),
    List.filter_append, filter_orBlank, hExternals,
    List.filter_cons_of_pos (Item.notBlank_line _),
    List.filter_cons_of_neg (by decide), filter_orBlank, hBody]
  simp only [List.map_append, List.map_cons, List.cons_append,
    List.append_assoc, List.nil_append]

theorem follows_allItems
    {o : HeaderOptions}
    {b : Bundle}
    (hClean : o.Clean)
    (hNamed : b.Named) :
    Follows [] (allItems o b) [] := by
  have hWord : IsWord externalsName := isWord_of_fault?_eq_none rfl
  have hInside : ∀ item ∈ b.resources.map externalItem,
      item.Readable [externalsName] ∧
        item.after [externalsName] = [externalsName] := by
    intro item hMem
    rcases List.mem_map.mp hMem with ⟨r, hR, hItem⟩
    rw [← hItem]
    exact ⟨⟨rfl, hNamed.symbols r hR⟩, rfl⟩
  unfold allItems externalsBlock
  exact (Follows.blockItems hWord (Follows.of_after_eq hInside)).append
    (follows_items hClean hNamed.symbols hNamed.idents hNamed.scopes [])

end Header

end ResourcePack

------------------------------------------------------------
-- No Line Feeds
------------------------------------------------------------

namespace ResourcePack

namespace Header

open Text Identifier

theorem isLine_of_isWord
    {text : String}
    (hWord : IsWord text) :
    IsLine text :=
  hWord.not_mem rfl

/- An item that can be read has a line of its own. -/
theorem isLine_line
    {path : List String}
    {item : Item}
    (hReadable : item.Readable path) :
    IsLine item.line := by
  cases item with
  | opened n path' =>
    rcases hReadable with ⟨name, hName, hPath⟩
    rw [hPath, Item.line_opened, List.getLast?_concat, Option.getD_some]
    have hOpening : IsLine "namespace " := by decide
    have hBrace : IsLine " \x7b" := by decide
    exact (((isLine_spaces n).append hOpening).append
      (isLine_of_isWord hName)).append hBrace
  | closed n path' =>
    rw [Item.line_closed]
    have hBrace : IsLine "\x7d" := by decide
    exact (isLine_spaces n).append hBrace
  | external path' symbol =>
    rw [Item.line_external]
    have hOpening : IsLine "\t\textern \"C\" const char " := by decide
    have hEnding : IsLine "[];" := by decide
    exact (hOpening.append (isLine_of_isWord hReadable.2)).append hEnding
  | object n e =>
    rcases hReadable with ⟨-, hClass, hIdent, hSymbol⟩
    rw [Item.line_object]
    have hClassLine : IsLine e.resourceClass :=
      not_mem_of_isClassName hClass rfl (by decide)
    have hOpening : IsLine "constexpr const " := by decide
    have hSpace : IsLine " " := by decide
    have hArgument : IsLine "(externals::" := by decide
    have hComma : IsLine ", " := by decide
    have hEnding : IsLine ");" := by decide
    exact ((((((((isLine_spaces n).append hOpening).append
      hClassLine).append hSpace).append
      (isLine_of_isWord hIdent)).append hArgument).append
      (isLine_of_isWord hSymbol)).append hComma).append
      (Decimal.isLine_toString e.size) |>.append hEnding

/- Of items that follow each other, each has a line of its own. -/
theorem isLine_of_follows
    {path path' : List String}
    {items : List Item}
    (hFollows : Follows path items path') :
    ∀ item ∈ items, IsLine item.line := by
  intro item hMem
  rcases hFollows.readable item hMem with ⟨home, hReadable⟩
  exact isLine_line hReadable

/- A file that can be named in a line has no line feed. -/
theorem isLine_of_isIncludable
    {file : String}
    (hFile : HeaderOptions.isIncludable file = true) :
    IsLine file := by
  intro hMem
  unfold HeaderOptions.isIncludable at hFile
  rw [Bool.and_eq_true, List.all_eq_true] at hFile
  have hChar := hFile.2 '\n' hMem
  exact absurd hChar (by decide)

/- Blank lines apart, the lines of a block are among those given. -/
theorem mem_orBlank
    {lines : List String}
    {line : String}
    (hMem : line ∈ orBlank lines) :
    line = "" ∨ line ∈ lines := by
  cases lines with
  | nil => exact Or.inl (List.mem_singleton.mp hMem)
  | cons first rest => exact Or.inr hMem

theorem isLine_of_mem_lines
    {o : HeaderOptions}
    {b : Bundle}
    (hClean : o.Clean)
    (hNamed : b.Named) :
    ∀ line ∈ lines o b, IsLine line := by
  have hBlank : IsLine "" := by decide
  have hIncludes : ∀ line ∈ orBlank (includeLines o), IsLine line := by
    intro line hMem
    rcases mem_orBlank hMem with hEmpty | hMem
    · exact hEmpty ▸ hBlank
    · rcases List.mem_map.mp hMem with ⟨file, hFile, hLine⟩
      have hBefore : IsLine "#include \"" := by decide
      have hAfter : IsLine "\"" := by decide
      rw [← hLine]
      exact (hBefore.append (isLine_of_isIncludable
        (hClean.includes file hFile))).append hAfter
  have hInner : ∀ line ∈ innerLines o b, IsLine line := by
    intro line hMem
    by_cases hEmpty : line = ""
    · exact hEmpty ▸ hBlank
    · have hKept : line ∈ (innerLines o b).filter notBlank :=
        List.mem_filter.mpr ⟨hMem, decide_eq_true hEmpty⟩
      rw [filter_innerLines] at hKept
      rcases List.mem_map.mp hKept with ⟨item, hItem, hLine⟩
      rw [← hLine]
      exact isLine_of_follows (follows_allItems hClean hNamed) item hItem
  have hIfndef : IsLine "#ifndef " := by decide
  have hDefine : IsLine "#define " := by decide
  have hStd : IsLine "#include <cstddef>" := by decide
  have hOpening : IsLine "namespace " := by decide
  have hBrace : IsLine " \x7b" := by decide
  have hEnding : ∀ line ∈ ["\x7d", "", "#endif"], IsLine line := by
    decide
  rw [lines_eq, List.forall_mem_cons, List.forall_mem_cons,
    List.forall_mem_cons, List.forall_mem_cons, List.forall_mem_append,
    List.forall_mem_cons, List.forall_mem_cons, List.forall_mem_append]
  exact ⟨hIfndef.append (isLine_of_isWord hClean.guard),
    hDefine.append (isLine_of_isWord hClean.guard), hBlank, hStd,
    hIncludes, hBlank,
    (hOpening.append (isLine_of_isWord hClean.scope)).append hBrace,
    hInner, hEnding⟩

theorem linesOf_render
    {o : HeaderOptions}
    {b : Bundle}
    (hClean : o.Clean)
    (hNamed : b.Named) :
    linesOf (render b o) = lines o b :=
  linesOf_unlines (isLine_of_mem_lines hClean hNamed)

end Header

end ResourcePack

------------------------------------------------------------
-- The Text Read Back
------------------------------------------------------------

namespace ResourcePack

namespace Header

open Text

theorem notBlank_of_mem_includeLines
    {o : HeaderOptions} :
    ∀ line ∈ includeLines o, notBlank line = true := by
  intro line hMem
  rcases List.mem_map.mp hMem with ⟨file, -, hLine⟩
  rw [← hLine]
  exact notBlank_append _ (by decide)

/- Lines up to a blank one are found again, and so is what follows. -/
theorem takeWhile_orBlank
    {block : List String}
    (hBlock : ∀ line ∈ block, notBlank line = true)
    (rest : List String) :
    (orBlank block ++ "" :: rest).takeWhile notBlank = block := by
  cases block with
  | nil => rfl
  | cons first others =>
    have hLines : orBlank (first :: others) = first :: others := rfl
    rw [hLines, List.takeWhile_append_of_pos hBlock,
      List.takeWhile_cons_of_neg (by decide), List.append_nil]

/- Behind the block and blank lines the rest is found. -/
theorem dropWhile_orBlank
    {block : List String}
    (hBlock : ∀ line ∈ block, notBlank line = true)
    {first : String}
    (hFirst : notBlank first = true)
    (rest : List String) :
    ((orBlank block ++ "" :: first :: rest).dropWhile notBlank).dropWhile
        (fun line => !notBlank line) =
      first :: rest := by
  have hStop : (first :: rest).dropWhile (fun line => !notBlank line) =
      first :: rest :=
    List.dropWhile_cons_of_neg (by simp [hFirst])
  cases block with
  | nil => exact hStop
  | cons line others =>
    have hLines : orBlank (line :: others) = line :: others := rfl
    rw [hLines, List.dropWhile_append_of_pos hBlock,
      List.dropWhile_cons_of_neg (by decide)]
    exact hStop

/- The files to include are read from their lines. -/
theorem mapM_includeLines
    (o : HeaderOptions) :
    (includeLines o).mapM (fun line =>
        between? "#include \"" "\"" line.toList) =
      some o.includes := by
  unfold includeLines
  induction o.includes with
  | nil => rfl
  | cons file rest ih =>
    rw [List.map_cons, List.mapM_cons, ih, String.append_assoc,
      between?_append]
    rfl

/- The outer namespace and the items in it are read. -/
theorem readScope_lines
    {o : HeaderOptions}
    {b : Bundle}
    (hClean : o.Clean)
    (hNamed : b.Named) :
    readScope (scopeLine o ::
        (innerLines o b ++ ["\x7d", "", "#endif"])) =
      some (o.scope, allItems o b) := by
  have hScope : namespaceOf? (scopeLine o).toList = some o.scope := by
    rw [namespaceOf?, scopeLine, String.append_assoc, between?_append]
  have hTrack := track_append (follows_allItems hClean hNamed)
    (filter_innerLines o b) ["\x7d", "", "#endif"]
  have hEnding : track [] ["\x7d", "", "#endif"] =
      some ([], ["", "#endif"]) := by
    decide
  rw [hEnding, Option.map_some, List.append_nil] at hTrack
  simp only [readScope, hScope, hTrack, Option.bind_eq_bind,
    Option.bind_some]
  rfl

/-
  What was written is read back: the guard, the files to include,
  the outer namespace and all items.
-/
theorem read_render
    {o : HeaderOptions}
    {b : Bundle}
    (hClean : o.Clean)
    (hNamed : b.Named) :
    read (render b o) =
      some ⟨o.guard, o.includes, o.scope, allItems o b⟩ := by
  have hGuard : ∀ before : String,
      between? before "" (before ++ o.guard).toList = some o.guard := by
    intro before
    have hRead := between?_append before "" o.guard
    rw [String.append_empty] at hRead
    exact hRead
  have hScopeLine : notBlank (scopeLine o) = true :=
    notBlank_append _ (by decide)
  unfold read
  rw [linesOf_render hClean hNamed, lines_eq]
  simp only [hGuard, Option.bind_eq_bind, Option.bind_some,
    takeWhile_orBlank notBlank_of_mem_includeLines,
    dropWhile_orBlank notBlank_of_mem_includeLines hScopeLine,
    mapM_includeLines, readScope_lines hClean hNamed]
  rfl

end Header

end ResourcePack
