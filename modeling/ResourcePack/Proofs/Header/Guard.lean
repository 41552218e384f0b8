import ResourcePack.Proofs.Header.ClassNames
import ResourcePack.Proofs.Header.Tokens

/-
  Whether the include guard is a name of the header that it guards.

  Key definitions include:
    * `ResourcePack.Header.behindDefine`
    * `ResourcePack.Header.spelled`
    * `ResourcePack.Header.guarded`
    * `ResourcePack.Header.HeaderName`
    * `ResourcePack.Header.Erases`

  Main declarations:
    * `ResourcePack.Header.forall_mem_guarded_iff`
    * `ResourcePack.Header.headerName_of_mem_spells`
    * `ResourcePack.Header.mem_spelled_iff`
    * `ResourcePack.Header.map_expanded_eq_iff`
    * `ResourcePack.Header.guard_spelled_iff`

  A header defines its guard as a macro without a text, so that the
  guard disappears wherever it is an identifier of the lines behind.
  The guard is checked to be an identifier, but it is not compared
  with anything: it may be the outer namespace, `externals`, a part
  of the class, or a name that comes from a resource.
-/

------------------------------------------------------------
-- Lines Behind the Guard
------------------------------------------------------------

namespace ResourcePack

namespace Header

open Text

/- The lines of a text behind the one that defines a macro. -/
def behindDefine
    (macroName text : String) : List String :=
  ((linesOf text).dropWhile fun line => line ≠ "#define " ++ macroName).tail

/- Whether a line names a file to include. -/
def isInclude
    (line : String) : Bool :=
  "#include ".toList.isPrefixOf line.toList

/- The identifiers of lines, apart from those that name a file. -/
def spelled
    (lines : List String) : List String :=
  (lines.filter fun line => !isInclude line).flatMap identifiers

/- The lines of a header behind the definition of its guard. -/
def guarded
    (o : HeaderOptions)
    (b : Bundle) : List String :=
  "" :: "#include <cstddef>" ::
    (orBlank (includeLines o) ++ "" :: scopeLine o ::
      (innerLines o b ++ ["\x7d", "", "#endif"]))

/- They are found behind it. -/
theorem behindDefine_render
    {o : HeaderOptions}
    {b : Bundle}
    (hClean : o.Clean)
    (hNamed : b.Named) :
    behindDefine o.guard (render b o) = guarded o b := by
  have hFirst : "#ifndef " ++ o.guard ≠ "#define " ++ o.guard := by
    intro hSame
    have hList := congrArg String.toList hSame
    rw [String.toList_append, String.toList_append] at hList
    exact absurd (List.append_cancel_right hList) (by decide)
  unfold behindDefine
  rw [linesOf_render hClean hNamed, lines_eq,
    List.dropWhile_cons_of_pos (by simp [hFirst]),
    List.dropWhile_cons_of_neg (by simp)]
  rfl

/-
  What holds of blank lines holds of all lines behind the guard if it
  holds of the directives, of the two lines of the outer namespace and
  of the lines of all items in it.
-/
theorem forall_mem_guarded_iff
    (o : HeaderOptions)
    (b : Bundle)
    {P : String → Prop}
    (hBlank : P "") :
    (∀ line ∈ guarded o b, P line) ↔
      P "#include <cstddef>" ∧ (∀ line ∈ includeLines o, P line) ∧
        P (scopeLine o) ∧ (∀ item ∈ allItems o b, P item.line) ∧
        P "\x7d" ∧ P "#endif" := by
  have hIncludes : (∀ line ∈ orBlank (includeLines o), P line) ↔
      ∀ line ∈ includeLines o, P line := by
    cases includeLines o with
    | nil => simpa [orBlank] using hBlank
    | cons first rest => exact Iff.rfl
  have hInner : (∀ line ∈ innerLines o b, P line) ↔
      ∀ item ∈ allItems o b, P item.line := by
    rw [← List.forall_mem_map (f := Item.line) (P := P),
      ← filter_innerLines]
    constructor
    · intro hAll line hMem
      exact hAll line (List.mem_of_mem_filter hMem)
    · intro hAll line hMem
      by_cases hEmpty : line = ""
      · exact hEmpty ▸ hBlank
      · exact hAll line
          (List.mem_filter.mpr ⟨hMem, decide_eq_true hEmpty⟩)
  unfold guarded
  simp only [List.forall_mem_cons, List.forall_mem_append, hIncludes,
    hInner, hBlank, true_and, List.not_mem_nil, false_implies,
    implies_true, and_true]

theorem isInclude_of_mem_includeLines
    {o : HeaderOptions} :
    ∀ line ∈ includeLines o, isInclude line = true := by
  intro line hMem
  rcases List.mem_map.mp hMem with ⟨file, -, rfl⟩
  unfold isInclude
  rw [String.append_assoc, String.toList_append, List.isPrefixOf_iff_prefix]
  exact ⟨'"' :: (file ++ "\"").toList, rfl⟩

theorem isDirective_of_isInclude
    {line : String}
    (hInclude : isInclude line = true) :
    isDirective line = true := by
  rcases List.isPrefixOf_iff_prefix.mp hInclude with ⟨rest, hLine⟩
  unfold isDirective unindented
  rw [← hLine]
  rfl

end Header

end ResourcePack

------------------------------------------------------------
-- Names of Items
------------------------------------------------------------

namespace ResourcePack

namespace Header

open HeaderOptions Identifier

/-
  The names behind the guard of a header: those of the outer namespace
  and of the block of symbols, and for every resource the parts of the
  class, its directories, its identifier and its symbol.
-/
inductive HeaderName
    (o : HeaderOptions)
    (xs : List Placed) : String → Prop where
  | scope : HeaderName o xs o.scope
  | block : HeaderName o xs externalsName
  | part
      {x : Placed}
      {name : String}
      (hX : x ∈ xs)
      (hName : name ∈ classParts o.resourceClass) :
      HeaderName o xs name
  | directory
      {x : Placed}
      {name : String}
      (hX : x ∈ xs)
      (hName : name ∈ x.scope) :
      HeaderName o xs name
  | ident
      {x : Placed}
      (hX : x ∈ xs) :
      HeaderName o xs x.resource.ident
  | symbol
      {x : Placed}
      (hX : x ∈ xs) :
      HeaderName o xs x.resource.symbol

/- They can be told by going through the resources. -/
theorem headerName_iff
    {o : HeaderOptions}
    {xs : List Placed}
    {name : String} :
    HeaderName o xs name ↔
      name = o.scope ∨ name = externalsName ∨ ∃ x ∈ xs,
        name ∈ classParts o.resourceClass ∨ name ∈ x.scope ∨
          name = x.resource.ident ∨ name = x.resource.symbol := by
  constructor
  · intro hName
    cases hName with
    | scope => exact Or.inl rfl
    | block => exact Or.inr (Or.inl rfl)
    | @part x _ hX hPart => exact Or.inr (Or.inr ⟨x, hX, by simp [hPart]⟩)
    | @directory x _ hX hIn => exact Or.inr (Or.inr ⟨x, hX, by simp [hIn]⟩)
    | @ident x hX => exact Or.inr (Or.inr ⟨x, hX, by simp⟩)
    | @symbol x hX => exact Or.inr (Or.inr ⟨x, hX, by simp⟩)
  · rintro (rfl | rfl | ⟨x, hX, hPart | hIn | rfl | rfl⟩)
    · exact .scope
    · exact .block
    · exact .part hX hPart
    · exact .directory hX hIn
    · exact .ident hX
    · exact .symbol hX

instance
    (o : HeaderOptions)
    (xs : List Placed) :
    DecidablePred (HeaderName o xs) :=
  fun _ => decidable_of_iff _ headerName_iff.symm

variable {o : HeaderOptions} {b : Bundle} {xs : List Placed}

/- A namespace that is opened has an item that opens it. -/
theorem exists_item_of_mem_openedBy
    {items : List Item}
    {path : List String}
    (hMem : path ∈ openedBy items) :
    ∃ n, .opened n path ∈ items := by
  rcases List.mem_filterMap.mp hMem with ⟨item, hItem, hOpened⟩
  cases item with
  | opened n path' =>
    have hPath : path' = path := Option.some.inj hOpened
    exact ⟨n, hPath ▸ hItem⟩
  | closed n path' => cases hOpened
  | external path' symbol => cases hOpened
  | object n e => cases hOpened

theorem exists_of_external_mem
    (hHolds : b.Holds xs)
    {path : List String}
    {symbol : String}
    (hMem : .external path symbol ∈ allItems o b) :
    ∃ x ∈ xs, x.resource.symbol = symbol := by
  have hSymbol : symbol ∈ (allItems o b).filterMap Item.symbol? :=
    List.mem_filterMap.mpr ⟨_, hMem, rfl⟩
  rw [allItems, List.filterMap_append, symbol?_externalsBlock,
    symbol?_items, List.append_nil, hHolds.resources, List.map_map] at hSymbol
  rcases List.mem_map.mp hSymbol with ⟨x, hX, hSame⟩
  exact ⟨x, hX, hSame⟩

/- What an item is written with is a name of the header. -/
theorem headerName_of_mem_spells
    (hHolds : b.Holds xs)
    {item : Item}
    (hMem : item ∈ allItems o b)
    {name : String}
    (hName : name ∈ item.spells) :
    HeaderName o xs name := by
  cases item with
  | opened n path =>
    have hOpened : path ∈ openedBy (allItems o b) :=
      List.mem_filterMap.mpr ⟨_, hMem, rfl⟩
    have hLast : name = path.getLast?.getD "" :=
      List.mem_singleton.mp hName
    rcases (mem_openedBy_allItems_iff o hHolds).mp hOpened with
      rfl | ⟨hNe, x, hX, hPrefix⟩
    · exact hLast ▸ .block
    · rw [List.getLast?_eq_some_getLast hNe, Option.getD_some] at hLast
      apply HeaderName.directory hX
      rw [hLast]
      exact hPrefix.subset (List.getLast_mem hNe)
  | closed n path => cases hName
  | external path symbol =>
    rcases exists_of_external_mem hHolds hMem with ⟨x, hX, rfl⟩
    exact List.mem_singleton.mp hName ▸ .symbol hX
  | object n e =>
    rcases exists_placed_of_mem hHolds hMem with ⟨x, hX, rfl⟩
    simp only [Item.spells, entryOf, List.mem_append, List.mem_cons,
      List.not_mem_nil, or_false] at hName
    rcases hName with hPart | rfl | rfl | rfl
    · exact .part hX hPart
    · exact .ident hX
    · exact .block
    · exact .symbol hX

/- A name of the header is on a line of the outer namespace or in it. -/
theorem HeaderName.exists_item
    (hHolds : b.Holds xs)
    {name : String}
    (hName : HeaderName o xs name) :
    name = o.scope ∨ ∃ item ∈ allItems o b, name ∈ item.spells := by
  have hObject : ∀ x ∈ xs,
      objectItem o.resourceClass x.scope x.resource ∈ allItems o b :=
    fun x hX => List.mem_append_right _ (objectItem_mem_allItems o hHolds hX)
  cases hName with
  | scope => exact Or.inl rfl
  | block =>
    exact Or.inr ⟨openedItem [] externalsName, List.mem_cons_self,
      List.mem_singleton.mpr rfl⟩
  | part hX hPart =>
    exact Or.inr ⟨_, hObject _ hX, List.mem_append_left _ hPart⟩
  | @directory x _ hX hIn =>
    rcases List.append_of_mem hIn with ⟨path, below, hPath⟩
    have hPrefix : path ++ [name] <+: x.scope := by
      rw [hPath]
      exact ⟨below, by simp⟩
    have hOpened : path ++ [name] ∈ openedBy (allItems o b) :=
      (mem_openedBy_allItems_iff o hHolds).mpr
        (Or.inr ⟨by simp, x, hX, hPrefix⟩)
    rcases exists_item_of_mem_openedBy hOpened with ⟨n, hItem⟩
    exact Or.inr ⟨_, hItem, by simp [Item.spells]⟩
  | ident hX =>
    exact Or.inr ⟨_, hObject _ hX, by
      simp [objectItem, entryOf, Item.spells]⟩
  | symbol hX =>
    exact Or.inr ⟨_, hObject _ hX, by
      simp [objectItem, entryOf, Item.spells]⟩

/- Where options and resources are accepted, all names pass the check. -/
theorem HeaderName.fault?_eq_none
    {rs : List Resource}
    {policy : Policy}
    (hValid : o.validate = .ok ())
    (hBundle : Bundle.ofResources rs policy = .ok b)
    (hSanitized : ∀ r ∈ rs, r.Sanitized)
    {name : String}
    (hName : HeaderName o (rs.map (Placed.byName policy)) name) :
    fault? name = none := by
  have hScopes := (Bundle.holds_ofResources hBundle).1
  rcases validate_eq_ok_iff.mp hValid with ⟨hScope, -, hClass, -⟩
  have hResource : ∀ x ∈ rs.map (Placed.byName policy),
      x.resource.Sanitized := by
    intro x hX
    rcases List.mem_map.mp hX with ⟨r, hR, rfl⟩
    exact (Placed.byName_resource policy r).symm ▸ hSanitized r hR
  cases hName with
  | scope => exact requireIdentifier_eq_ok_iff.mp hScope
  | block => rfl
  | part hX hPart => exact hClass name hPart
  | directory hX hIn =>
    rcases List.mem_map.mp hX with ⟨r, hR, rfl⟩
    rcases exists_of_mem_mapM (hScopes r hR) hIn with
      ⟨directory, -, hSanitize⟩
    exact fault?_of_sanitize hSanitize
  | ident hX =>
    rcases (hResource _ hX).ident with ⟨_, _, hIdent⟩
    exact fault?_of_sanitize hIdent
  | symbol hX =>
    rcases (hResource _ hX).symbol with ⟨_, _, hSymbol⟩
    exact fault?_of_sanitize hSymbol

end Header

end ResourcePack

------------------------------------------------------------
-- Identifiers Behind the Guard
------------------------------------------------------------

namespace ResourcePack

namespace Header

open HeaderOptions Identifier

variable {o : HeaderOptions} {b : Bundle}

theorem identifiers_scopeLine
    (hScope : IsName o.scope) :
    identifiers (scopeLine o) = ["namespace", o.scope] := by
  unfold identifiers scopeLine
  rw [String.append_assoc, names_opening hScope]

theorem not_isDirective_scopeLine
    (o : HeaderOptions) :
    isDirective (scopeLine o) = false := by
  unfold isDirective Text.unindented scopeLine
  rw [String.append_assoc, String.toList_append]
  rfl

theorem not_isDirective_line
    {path : List String}
    {item : Item}
    (hReadable : item.Readable path) :
    isDirective item.line = false := by
  unfold isDirective
  cases item with
  | opened n path' =>
    rcases hReadable with ⟨name, -, rfl⟩
    rw [unindented_opened, String.toList_append]
    rfl
  | closed n path' =>
    rw [unindented_closed]
    rfl
  | external path' symbol =>
    rw [unindented_external, String.toList_append]
    rfl
  | object n e =>
    rw [unindented_object]
    rfl

/- The keywords on the lines of items are reserved. -/
theorem reserved_of_mem_keywords
    {item : Item} :
    ∀ word ∈ item.keywords, word ∈ reservedWords := by
  cases item <;> (simp only [Item.keywords]; decide)

variable {rs : List Resource} {policy : Policy} {name : String}

/-
  Some of the directives are skipped, among them the lines that name
  files.  Then a name that is not reserved is no identifier of any
  other line behind the guard exactly if it is no name of the header,
  nor `endif` unless the last line is skipped.
-/
theorem unspelled_behind_iff
    (hValid : o.validate = .ok ())
    (hBundle : Bundle.ofResources rs policy = .ok b)
    (hSanitized : ∀ r ∈ rs, r.Sanitized)
    (hFree : name ∉ reservedWords)
    {skip : String → Bool}
    (hInclude : ∀ line, isInclude line = true → skip line = true)
    (hDirective : ∀ line, skip line = true → isDirective line = true) :
    (∀ line ∈ behindDefine o.guard (render b o),
        skip line = true ∨ name ∉ identifiers line) ↔
      ¬HeaderName o (rs.map (Placed.byName policy)) name ∧
        (skip "#endif" = true ∨ name ≠ "endif") := by
  have hClean := clean_of_validate hValid
  have hNamed := Bundle.named_ofResources hSanitized hBundle
  have hHolds := (Bundle.holds_ofResources hBundle).2
  have hIsName : ∀ word,
      HeaderName o (rs.map (Placed.byName policy)) word → IsName word :=
    fun word hWord => (fault?_eq_none_iff.mp
      (hWord.fault?_eq_none hValid hBundle hSanitized)).1
  have hKept : ∀ {line}, isDirective line = false →
      (skip line = true ∨ name ∉ identifiers line ↔
        name ∉ identifiers line) := by
    intro line hLine
    apply or_iff_right
    intro hSkip
    rw [hDirective line hSkip] at hLine
    cases hLine
  have hTop : (skip (scopeLine o) = true ∨
      name ∉ identifiers (scopeLine o)) ↔ name ≠ o.scope := by
    have hKeyword : name ≠ "namespace" := by
      rintro rfl
      exact hFree (by decide)
    rw [hKept (not_isDirective_scopeLine o),
      identifiers_scopeLine (hIsName _ .scope)]
    simp [hKeyword]
  have hItems : (∀ item ∈ allItems o b,
      skip item.line = true ∨ name ∉ identifiers item.line) ↔
        ∀ item ∈ allItems o b, name ∉ item.spells := by
    apply forall₂_congr
    intro item hMem
    rcases (follows_allItems hClean hNamed).readable item hMem with
      ⟨home, hReadable⟩
    have hNames : ∀ word ∈ item.spells, IsName word :=
      fun word hWord =>
        hIsName word (headerName_of_mem_spells hHolds hMem hWord)
    have hKeyword : name ∉ item.keywords :=
      fun hWord => hFree (reserved_of_mem_keywords _ hWord)
    rw [hKept (not_isDirective_line hReadable),
      identifiers_line hReadable hNames, List.mem_append,
      or_iff_right hKeyword]
  have hNone : ¬HeaderName o (rs.map (Placed.byName policy)) name ↔
      name ≠ o.scope ∧ ∀ item ∈ allItems o b, name ∉ item.spells := by
    constructor
    · intro hNot
      refine ⟨fun hScope => hNot (hScope ▸ .scope), ?_⟩
      intro item hMem hName
      exact hNot (headerName_of_mem_spells hHolds hMem hName)
    · rintro ⟨hScope, hAll⟩ hName
      rcases hName.exists_item hHolds with hSame | ⟨item, hMem, hIn⟩
      · exact hScope hSame
      · exact hAll item hMem hIn
  have hClosing : identifiers "\x7d" = [] := by
    decide
  have hEndif : identifiers "#endif" = ["endif"] := by
    decide
  rw [behindDefine_render hClean hNamed,
    forall_mem_guarded_iff o b (Or.inr List.not_mem_nil), hTop, hItems,
    hNone, hClosing, hEndif, List.mem_singleton]
  constructor
  · rintro ⟨-, -, hScope, hAll, -, hEnd⟩
    exact ⟨⟨hScope, hAll⟩, hEnd⟩
  · rintro ⟨⟨hScope, hAll⟩, hEnd⟩
    refine ⟨Or.inl (hInclude _ (by decide)), ?_, hScope, hAll,
      Or.inr List.not_mem_nil, hEnd⟩
    intro line hMem
    exact Or.inl (hInclude line (isInclude_of_mem_includeLines line hMem))

/- A name is not spelled in lines that are skipped or do not have it. -/
theorem not_mem_spelled_iff
    {lines : List String} :
    name ∉ spelled lines ↔
      ∀ line ∈ lines, isInclude line = true ∨ name ∉ identifiers line := by
  simp only [spelled, List.mem_flatMap, List.mem_filter,
    Bool.not_eq_true', not_exists, not_and, and_imp]
  apply forall₂_congr
  intro line _
  rw [or_iff_not_imp_left, Bool.not_eq_true]

/-
  The identifiers behind the guard that are not reserved, the lines
  that name files apart, are the names of the header and `endif`.
-/
theorem mem_spelled_iff
    (hValid : o.validate = .ok ())
    (hBundle : Bundle.ofResources rs policy = .ok b)
    (hSanitized : ∀ r ∈ rs, r.Sanitized)
    (hFree : name ∉ reservedWords) :
    name ∈ spelled (behindDefine o.guard (render b o)) ↔
      HeaderName o (rs.map (Placed.byName policy)) name ∨
        name = "endif" := by
  have hEnd : isInclude "#endif" = false := by
    decide
  rw [← not_iff_not, not_mem_spelled_iff, not_or,
    unspelled_behind_iff hValid hBundle hSanitized hFree
      (fun _ hSkip => hSkip)
      (fun _ hSkip => isDirective_of_isInclude hSkip),
    hEnd, or_iff_right Bool.false_ne_true]

/-
  A macro that is not reserved and stands for nothing leaves the lines
  behind the guard as they are exactly if it is no name of the header.
-/
theorem map_expanded_eq_iff
    (hValid : o.validate = .ok ())
    (hBundle : Bundle.ofResources rs policy = .ok b)
    (hSanitized : ∀ r ∈ rs, r.Sanitized)
    (hFree : name ∉ reservedWords)
    (hNe : name ≠ "") :
    (behindDefine o.guard (render b o)).map (expanded name) =
        behindDefine o.guard (render b o) ↔
      ¬HeaderName o (rs.map (Placed.byName policy)) name := by
  have hEnd : isDirective "#endif" = true := by
    decide
  have hLines : ∀ lines : List String,
      lines.map (expanded name) = lines ↔ ∀ line ∈ lines,
        isDirective line = true ∨ name ∉ identifiers line := by
    intro lines
    conv_lhs => rhs; rw [← List.map_id lines]
    rw [List.map_inj_left]
    apply forall₂_congr
    intro line _
    exact expanded_eq_iff hNe line
  rw [hLines, unspelled_behind_iff hValid hBundle hSanitized hFree
    (fun _ hSkip => isDirective_of_isInclude hSkip) (fun _ hSkip => hSkip),
    and_iff_left (Or.inl hEnd)]

end Header

end ResourcePack

------------------------------------------------------------
-- Accepted Configurations
------------------------------------------------------------

namespace ResourcePack

namespace Header

open HeaderOptions Identifier

/-
  Of an accepted configuration and the resources accepted under it,
  the guard is an identifier of the header behind its definition, the
  lines that name files apart, exactly if it is a name of the header
  or `endif`.  Preprocessing leaves these lines as they are exactly if
  it is no name of the header.
-/
theorem guard_spelled_iff
    {c : Config}
    {o : HeaderOptions}
    {rs : List Resource}
    {b : Bundle}
    (hConfig : c.validate = .ok ())
    (hOptions : c.headerOptions = .ok o)
    (hBundle : Bundle.ofResources rs c.policy = .ok b)
    (hSanitized : ∀ r ∈ rs, r.Sanitized) :
    (o.guard ∈ spelled (behindDefine o.guard (render b o)) ↔
      HeaderName o (rs.map (Placed.byName c.policy)) o.guard ∨
        o.guard = "endif") ∧
      ((behindDefine o.guard (render b o)).map (expanded o.guard) =
          behindDefine o.guard (render b o) ↔
        ¬HeaderName o (rs.map (Placed.byName c.policy)) o.guard) := by
  have hValid := Generation.validate_options hConfig hOptions
  have hNe : o.guard ≠ "" := (clean_of_validate hValid).guard.ne_empty
  rcases validate_eq_ok_iff.mp hValid with ⟨-, hGuard, -, -⟩
  rw [requireIdentifier_eq_ok_iff, fault?_eq_none_iff] at hGuard
  exact ⟨mem_spelled_iff hValid hBundle hSanitized hGuard.2,
    map_expanded_eq_iff hValid hBundle hSanitized hGuard.2 hNe⟩

theorem guard_spelled_sample :
    classConfig.validate = .ok () ∧
      classConfig.headerOptions = .ok sampleOptions ∧
      ∃ b, Bundle.ofResources sample classConfig.policy = .ok b ∧
        (∀ r ∈ sample, r.Sanitized) ∧
        sampleOptions.guard ∉ spelled
          (behindDefine sampleOptions.guard (render b sampleOptions)) ∧
        (behindDefine sampleOptions.guard (render b sampleOptions)).map
            (expanded sampleOptions.guard) =
          behindDefine sampleOptions.guard (render b sampleOptions) := by
  have hConfig : classConfig.validate = .ok () := by
    decide +kernel
  have hOptions : classConfig.headerOptions = .ok sampleOptions := by
    decide +kernel
  have hBundle : ∃ b,
      Bundle.ofResources sample classConfig.policy = .ok b :=
    ⟨_, rfl⟩
  have hNone : ¬HeaderName sampleOptions
      (sample.map (Placed.byName classConfig.policy))
      sampleOptions.guard := by
    decide +kernel
  rcases hBundle with ⟨b, hBundle⟩
  rcases guard_spelled_iff hConfig hOptions hBundle sanitized_sample with
    ⟨hSpelled, hExpanded⟩
  refine ⟨hConfig, hOptions, b, hBundle, sanitized_sample, ?_,
    hExpanded.mpr hNone⟩
  rw [hSpelled, not_or]
  exact ⟨hNone, by decide⟩

/- Resources are accepted, and preprocessing changes their header. -/
structure Erases
    (c : Config)
    (o : HeaderOptions)
    (rs : List Resource)
    (b : Bundle) : Prop where
  accepted : c.validate = .ok ()
  options : c.headerOptions = .ok o
  bundle : Bundle.ofResources rs c.policy = .ok b
  sanitized : ∀ r ∈ rs, r.Sanitized
  spelled : o.guard ∈ spelled (behindDefine o.guard (render b o))
  changed : (behindDefine o.guard (render b o)).map (expanded o.guard) ≠
    behindDefine o.guard (render b o)

/- It does so if the guard is a name of the header. -/
theorem erases_of_headerName
    {c : Config}
    {o : HeaderOptions}
    {rs : List Resource}
    {b : Bundle}
    (hConfig : c.validate = .ok ())
    (hOptions : c.headerOptions = .ok o)
    (hBundle : Bundle.ofResources rs c.policy = .ok b)
    (hSanitized : ∀ r ∈ rs, r.Sanitized)
    (hName : HeaderName o (rs.map (Placed.byName c.policy)) o.guard) :
    Erases c o rs b := by
  have hValid := Generation.validate_options hConfig hOptions
  rcases fault?_eq_none_iff.mp
    (hName.fault?_eq_none hValid hBundle hSanitized) with ⟨-, hFree⟩
  have hNe : o.guard ≠ "" := (clean_of_validate hValid).guard.ne_empty
  refine ⟨hConfig, hOptions, hBundle, hSanitized, ?_, ?_⟩
  · exact (mem_spelled_iff hValid hBundle hSanitized hFree).mpr
      (Or.inl hName)
  · intro hSame
    exact (map_expanded_eq_iff hValid hBundle hSanitized hFree hNe).mp
      hSame hName

/-
  The guard may be `externals`, a part of the class, or the identifier
  of a resource.
-/
theorem guard_erased :
    (∃ b, Erases { classConfig with guard := "externals" }
      { sampleOptions with guard := "externals" } sample b) ∧
      (∃ b, Erases { classConfig with guard := "R" }
        { sampleOptions with guard := "R" } sample b) ∧
      ∃ b, Erases { classConfig with guard := "a_png" }
        { sampleOptions with guard := "a_png" } sample b := by
  have hBundle : ∃ b,
      Bundle.ofResources sample classConfig.policy = .ok b :=
    ⟨_, rfl⟩
  rcases hBundle with ⟨b, hBundle⟩
  refine ⟨⟨b, ?_⟩, ⟨b, ?_⟩, ⟨b, ?_⟩⟩
  · exact erases_of_headerName (by decide +kernel) (by decide +kernel)
      hBundle sanitized_sample (by decide +kernel)
  · exact erases_of_headerName (by decide +kernel) (by decide +kernel)
      hBundle sanitized_sample (by decide +kernel)
  · exact erases_of_headerName (by decide +kernel) (by decide +kernel)
      hBundle sanitized_sample (by decide +kernel)

end Header

end ResourcePack
