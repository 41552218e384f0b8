import ResourcePack.Assembly
import ResourcePack.Proofs.Identifier.Words
import ResourcePack.Proofs.Text.Reading

/-
  The symbols that are read from an assembly file.

  Key definitions include:
    * `ResourcePack.Assembly.globals`
    * `ResourcePack.Assembly.labels`

  Main declarations:
    * `ResourcePack.Assembly.isLine_operand`
    * `ResourcePack.Assembly.globals_render`
    * `ResourcePack.Assembly.labels_render`

  Names of resources may hold line feeds and lines of assembly.
  They are escaped, so that every line of the file is one that was
  written as such; the symbols on the `.global` lines and those of
  the labels are then the symbols of the resources, in order.
-/

------------------------------------------------------------
-- Readers
------------------------------------------------------------

namespace ResourcePack

namespace Assembly

open Text Identifier

/- The symbol that a line makes global. -/
def globalOf?
    (line : String) : Option String :=
  between? ".global " "" (unindented line)

/- The label that a line is: what stands before a colon at its end. -/
def labelOf?
    (line : String) : Option String :=
  between? "" ":" line.toList

/- The symbols that an assembly file makes global. -/
def globals
    (text : String) : List String :=
  (linesOf text).filterMap globalOf?

/- The labels of an assembly file. -/
def labels
    (text : String) : List String :=
  (linesOf text).filterMap labelOf?

end Assembly

end ResourcePack

------------------------------------------------------------
-- No Line Feeds
------------------------------------------------------------

namespace ResourcePack

namespace Assembly

open Text Identifier

theorem feed_not_mem_octal
    {n : Nat}
    (hSmall : n < 512) :
    '\n' ∉ octal n := by
  have hDigit : ∀ digit < 8, '\n' ≠ Nat.digitChar digit := by
    decide
  have hFirst : n / 64 < 8 := by omega
  have hSecond : n / 8 % 8 < 8 := Nat.mod_lt _ (by decide)
  have hThird : n % 8 < 8 := Nat.mod_lt _ (by decide)
  unfold octal
  simp only [List.mem_cons, List.not_mem_nil, or_false, not_or]
  exact ⟨hDigit _ hFirst, hDigit _ hSecond, hDigit _ hThird⟩

/- No character is written with a line feed inside a string. -/
theorem feed_not_mem_operandChar
    (c : Char) :
    '\n' ∉ operandChar c := by
  unfold operandChar
  by_cases hBackslash : c = '\\'
  · rw [if_pos hBackslash]
    decide
  · rw [if_neg hBackslash]
    by_cases hQuote : c = '"'
    · rw [if_pos hQuote]
      decide
    · rw [if_neg hQuote]
      by_cases hControl : isControl c = true
      · have hSmall : c.toNat < 512 := by
          unfold isControl at hControl
          rw [Bool.or_eq_true, decide_eq_true_eq,
            decide_eq_true_eq] at hControl
          omega
        rw [if_pos hControl, List.mem_cons, not_or]
        exact ⟨by decide, feed_not_mem_octal hSmall⟩
      · rw [if_neg hControl, List.mem_singleton]
        intro hFeed
        apply hControl
        rw [← hFeed]
        decide

/- Whatever a text holds, it is written on one line. -/
theorem isLine_operand
    (text : String) :
    IsLine (operand text) := by
  unfold IsLine operand
  rw [String.toList_ofList, List.mem_flatMap]
  intro hMem
  rcases hMem with ⟨c, -, hChar⟩
  exact feed_not_mem_operandChar c hChar

/- Every line of a block is one line of the text. -/
theorem isLine_of_mem_block
    {align : Nat}
    {r : Resource}
    (hSymbol : IsWord r.symbol) :
    ∀ line ∈ block align r, IsLine line := by
  have hWord : IsLine r.symbol := hSymbol.not_mem rfl
  have hGlobal : IsLine "    .global " := by decide
  have hAlign : IsLine "    .align " := by decide
  have hColon : IsLine ":" := by decide
  have hIncbin : IsLine "    .incbin \"" := by decide
  have hQuote : IsLine "\"" := by decide
  have hByte : IsLine "    .byte 0" := by decide
  unfold block
  rw [List.forall_mem_cons, List.forall_mem_cons, List.forall_mem_cons,
    List.forall_mem_cons, List.forall_mem_singleton]
  exact ⟨hGlobal.append hWord,
    hAlign.append (Decimal.isLine_toString align),
    hWord.append hColon,
    (hIncbin.append (isLine_operand r.name)).append hQuote, hByte⟩

theorem isLine_of_mem_lines
    {rs : List Resource}
    (hSymbols : ∀ r ∈ rs, IsWord r.symbol)
    (align : Nat) :
    ∀ line ∈ lines align rs, IsLine line := by
  have hSection : IsLine ".section .rodata" := by decide
  unfold lines
  rw [List.forall_mem_cons]
  refine ⟨hSection, ?_⟩
  intro line hMem
  rcases List.mem_flatMap.mp hMem with ⟨r, hR, hLine⟩
  exact isLine_of_mem_block (hSymbols r hR) line hLine

theorem linesOf_render
    {rs : List Resource}
    (hSymbols : ∀ r ∈ rs, IsWord r.symbol)
    (align : Nat) :
    linesOf (render rs align) = lines align rs :=
  linesOf_unlines (isLine_of_mem_lines hSymbols align)

end Assembly

end ResourcePack

------------------------------------------------------------
-- Symbols
------------------------------------------------------------

namespace ResourcePack

namespace Assembly

open Text Identifier

theorem labelOf?_eq_none
    {line : String}
    {c : Char}
    (hLast : line.toList.getLast? = some c)
    (hOther : c ≠ ':') :
    labelOf? line = none := by
  have hSuffix : ":".toList.isSuffixOf? line.toList = none := by
    cases hFound : ":".toList.isSuffixOf? line.toList with
    | none => rfl
    | some inner =>
      have hLine := List.isSuffixOf?_eq_some_iff_append_eq.mp hFound
      rw [← hLine] at hLast
      have hColon : (inner ++ ":".toList).getLast? = some ':' :=
        List.getLast?_concat
      rw [hColon, Option.some.injEq] at hLast
      exact absurd hLast.symm hOther
  have hPrefix : "".toList.isPrefixOf? line.toList = some line.toList :=
    rfl
  unfold labelOf? between?
  rw [hPrefix, Option.bind_eq_bind, Option.bind_some, hSuffix]
  rfl

/- Text behind other text ends in its own last character. -/
theorem getLast?_append
    (first last : String)
    (hLast : last ≠ "") :
    ∃ c ∈ last.toList,
      (first ++ last).toList.getLast? = some c := by
  have hNe : last.toList ≠ [] := by
    intro hNil
    exact hLast (String.toList_eq_nil_iff.mp hNil)
  refine ⟨last.toList.getLast hNe, List.getLast_mem hNe, ?_⟩
  rw [String.toList_append, List.getLast?_append,
    List.getLast?_eq_some_getLast hNe]
  rfl

/- Characters of identifiers indent nothing. -/
theorem isIndent_of_isIdentChar
    {c : Char}
    (hIdent : isIdentChar c = true) :
    isIndent c = false := by
  cases hIndent : isIndent c with
  | false => rfl
  | true =>
    unfold isIndent at hIndent
    rw [Bool.or_eq_true, decide_eq_true_eq,
      decide_eq_true_eq] at hIndent
    rcases hIndent with hSpace | hTab
    · rw [hSpace] at hIdent
      exact absurd hIdent (by decide)
    · rw [hTab] at hIdent
      exact absurd hIdent (by decide)

/- Only the first line of a block makes a symbol global. -/
theorem filterMap_globalOf?_block
    {r : Resource}
    (hSymbol : IsWord r.symbol)
    (align : Nat) :
    (block align r).filterMap globalOf? = [r.symbol] := by
  rcases hSymbol.exists_cons with ⟨c, rest, hText, hIdent⟩
  have hDot : '.' ≠ c := by
    intro hEq
    rw [← hEq] at hIdent
    exact absurd hIdent (by decide)
  have hSolid := isIndent_of_isIdentChar hIdent
  have hGlobal : globalOf? ("    .global " ++ r.symbol) =
      some r.symbol := by
    have hRead := between?_append ".global " "" r.symbol
    rw [String.append_empty, String.toList_append] at hRead
    unfold globalOf? unindented
    rw [String.toList_append]
    exact hRead
  have hAlign : globalOf? ("    .align " ++ toString align) = none := by
    unfold globalOf? unindented
    rw [String.toList_append]
    rfl
  have hLabel : globalOf? (r.symbol ++ ":") = none := by
    unfold globalOf? unindented
    rw [String.toList_append, hText, List.cons_append,
      List.dropWhile_cons_of_neg (by simp [hSolid])]
    exact between?_eq_none rfl hDot
  have hIncbin : globalOf? ("    .incbin \"" ++ operand r.name ++ "\"") =
      none := by
    unfold globalOf? unindented
    rw [String.append_assoc, String.toList_append]
    rfl
  have hByte : globalOf? "    .byte 0" = none := by
    decide
  unfold block
  rw [List.filterMap_cons_some hGlobal, List.filterMap_cons_none hAlign,
    List.filterMap_cons_none hLabel, List.filterMap_cons_none hIncbin,
    List.filterMap_cons_none hByte]
  rfl

/- Only the third line of a block is a label. -/
theorem filterMap_labelOf?_block
    {r : Resource}
    (hSymbol : IsWord r.symbol)
    (align : Nat) :
    (block align r).filterMap labelOf? = [r.symbol] := by
  have hGlobal : labelOf? ("    .global " ++ r.symbol) = none := by
    rcases getLast?_append "    .global " r.symbol hSymbol.ne_empty with
      ⟨c, hMem, hLast⟩
    apply labelOf?_eq_none hLast
    intro hColon
    exact hSymbol.not_mem rfl (hColon ▸ hMem)
  have hAlign : labelOf? ("    .align " ++ toString align) = none := by
    have hNe : toString align ≠ "" := by
      intro hEmpty
      have hDigits := Decimal.digits?_toString align
      rw [hEmpty] at hDigits
      cases hDigits
    rcases getLast?_append "    .align " (toString align) hNe with
      ⟨c, hMem, hLast⟩
    apply labelOf?_eq_none hLast
    intro hColon
    have hDigit := Decimal.isDigit_of_mem_toString hMem
    rw [hColon] at hDigit
    exact absurd hDigit (by decide)
  have hLabel : labelOf? (r.symbol ++ ":") = some r.symbol := by
    have hRead := between?_append "" ":" r.symbol
    rw [String.empty_append] at hRead
    exact hRead
  have hIncbin : labelOf? ("    .incbin \"" ++ operand r.name ++ "\"") =
      none := by
    rcases getLast?_append ("    .incbin \"" ++ operand r.name) "\""
      (by decide) with ⟨c, hMem, hLast⟩
    apply labelOf?_eq_none hLast
    intro hColon
    rw [hColon] at hMem
    exact absurd hMem (by decide)
  have hByte : labelOf? "    .byte 0" = none := by
    decide
  unfold block
  rw [List.filterMap_cons_none hGlobal, List.filterMap_cons_none hAlign,
    List.filterMap_cons_some hLabel, List.filterMap_cons_none hIncbin,
    List.filterMap_cons_none hByte]
  rfl

/- What is read from each block is read from the whole file. -/
theorem filterMap_lines
    {f : String → Option String}
    {rs : List Resource}
    {align : Nat}
    (hSection : f ".section .rodata" = none)
    (hBlocks : ∀ r ∈ rs, (block align r).filterMap f = [r.symbol]) :
    (lines align rs).filterMap f = rs.map Resource.symbol := by
  unfold lines
  rw [List.filterMap_cons_none hSection, List.filterMap_flatMap,
    List.flatMap_congr hBlocks, List.map_eq_flatMap]

theorem globals_render
    {rs : List Resource}
    (hSymbols : ∀ r ∈ rs, IsWord r.symbol)
    (align : Nat) :
    globals (render rs align) = rs.map Resource.symbol := by
  unfold globals
  rw [linesOf_render hSymbols]
  apply filterMap_lines (by decide)
  intro r hR
  exact filterMap_globalOf?_block (hSymbols r hR) align

theorem labels_render
    {rs : List Resource}
    (hSymbols : ∀ r ∈ rs, IsWord r.symbol)
    (align : Nat) :
    labels (render rs align) = rs.map Resource.symbol := by
  unfold labels
  rw [linesOf_render hSymbols]
  apply filterMap_lines (by decide)
  intro r hR
  exact filterMap_labelOf?_block (hSymbols r hR) align

end Assembly

end ResourcePack
