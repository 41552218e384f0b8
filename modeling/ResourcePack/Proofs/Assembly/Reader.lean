import ResourcePack.Proofs.Assembly.Symbols

/-
  Reading an assembly file back.

  Key definitions include:
    * `ResourcePack.Assembly.string?`
    * `ResourcePack.Assembly.Inclusion`
    * `ResourcePack.Assembly.inclusion?`
    * `ResourcePack.Assembly.read`

  Main declarations:
    * `ResourcePack.Assembly.octal?_octal`
    * `ResourcePack.Assembly.string?_operand`
    * `ResourcePack.Assembly.inclusions?_flatMap`
    * `ResourcePack.Assembly.lossless_render`

  The reader takes strings by the rules of the assembler: a backslash
  in front of a backslash or of a quote stands for that character,
  one in front of three octal digits for the character of that code,
  and everything else for itself.  It takes three digits and no more,
  so a control character may be followed by a digit.  Whatever a
  resource is called, its five lines are read back as its symbol, the
  alignment and its name.
-/

------------------------------------------------------------
-- Strings
------------------------------------------------------------

namespace ResourcePack

namespace Assembly

/- The value of an octal digit. -/
def octalDigit?
    (c : Char) : Option Nat :=
  if '0' ≤ c ∧ c ≤ '7' then some (c.toNat - '0'.toNat) else none

/- The value of three octal digits. -/
def octal?
    (first second third : Char) : Option Nat := do
  let high ← octalDigit? first
  let middle ← octalDigit? second
  let low ← octalDigit? third
  return 64 * high + 8 * middle + low

/- A character in front of what is read next. -/
def prepend
    (c : Char)
    (next : Option (List Char × List Char)) :
    Option (List Char × List Char) :=
  next.map fun found => (c :: found.1, found.2)

/-
  A string of the assembler behind its first quote: the characters up
  to the first quote that is not escaped, and what follows it.
-/
def string? : List Char → Option (List Char × List Char)
  | [] => none
  | '"' :: rest => some ([], rest)
  | '\\' :: '\\' :: rest => prepend '\\' (string? rest)
  | '\\' :: '"' :: rest => prepend '"' (string? rest)
  | '\\' :: first :: second :: third :: rest =>
    match octal? first second third with
    | some n => prepend (Char.ofNat n) (string? rest)
    | none => prepend '\\' (string? (first :: second :: third :: rest))
  | c :: rest => prepend c (string? rest)

theorem octal?_octal
    {n : Nat}
    (hSmall : n < 512) :
    octal? (Nat.digitChar (n / 64)) (Nat.digitChar (n / 8 % 8))
      (Nat.digitChar (n % 8)) = some n := by
  have hDigit : ∀ digit < 8,
      octalDigit? (Nat.digitChar digit) = some digit := by
    decide
  have hHigh : n / 64 < 8 := by omega
  have hMiddle : n / 8 % 8 < 8 := Nat.mod_lt _ (by decide)
  have hLow : n % 8 < 8 := Nat.mod_lt _ (by decide)
  rw [octal?, hDigit _ hHigh, hDigit _ hMiddle, hDigit _ hLow]
  simp only [Option.bind_eq_bind, Option.bind_some, Option.pure_def,
    Option.some.injEq]
  omega

/- An octal digit is neither a backslash nor a quote. -/
theorem digitChar_ne
    {digit : Nat}
    (hSmall : digit < 8) :
    Nat.digitChar digit ≠ '\\' ∧ Nat.digitChar digit ≠ '"' := by
  have hAll : ∀ digit < 8,
      Nat.digitChar digit ≠ '\\' ∧ Nat.digitChar digit ≠ '"' := by
    decide
  exact hAll digit hSmall

theorem string?_cons
    {c : Char}
    (hBackslash : c ≠ '\\')
    (hQuote : c ≠ '"')
    (rest : List Char) :
    string? (c :: rest) = prepend c (string? rest) := by
  rw [string?]
  · exact hQuote
  · intro _ hEq
    exact absurd hEq hBackslash
  · intro _ hEq
    exact absurd hEq hBackslash
  · intro _ _ _ _ hEq
    exact absurd hEq hBackslash

/- Three octal digits behind a backslash are read as a character. -/
theorem string?_octal
    {n : Nat}
    (hSmall : n < 512)
    (rest : List Char) :
    string? ('\\' :: (octal n ++ rest)) =
      prepend (Char.ofNat n) (string? rest) := by
  have hHigh : n / 64 < 8 := by omega
  have hFirst := digitChar_ne hHigh
  rw [octal, List.cons_append, List.cons_append, List.cons_append,
    List.nil_append, string?, octal?_octal hSmall]
  · exact hFirst.1
  · exact hFirst.2

/- A character is read back from the way that it is written. -/
theorem string?_operandChar
    (c : Char)
    (rest : List Char) :
    string? (operandChar c ++ rest) = prepend c (string? rest) := by
  unfold operandChar
  by_cases hBackslash : c = '\\'
  · rw [if_pos hBackslash, hBackslash]
    rfl
  by_cases hQuote : c = '"'
  · rw [if_neg hBackslash, if_pos hQuote, hQuote]
    rfl
  rw [if_neg hBackslash, if_neg hQuote]
  by_cases hControl : isControl c = true
  · have hSmall : c.toNat < 512 := by
      unfold isControl at hControl
      rw [Bool.or_eq_true, decide_eq_true_eq,
        decide_eq_true_eq] at hControl
      omega
    rw [if_pos hControl, List.cons_append, string?_octal hSmall,
      Char.ofNat_toNat]
  · rw [if_neg hControl, List.singleton_append]
    exact string?_cons hBackslash hQuote rest

/-
  A text is read back from its operand, up to the quote behind it and
  no further.
-/
theorem string?_operand
    (text : String)
    (rest : List Char) :
    string? ((operand text).toList ++ '"' :: rest) =
      some (text.toList, rest) := by
  rw [operand, String.toList_ofList]
  generalize text.toList = chars
  induction chars with
  | nil => rfl
  | cons c chars ih =>
    rw [List.flatMap_cons, List.append_assoc, string?_operandChar, ih]
    rfl

end Assembly

end ResourcePack

------------------------------------------------------------
-- Files
------------------------------------------------------------

namespace ResourcePack

namespace Assembly

open Text Identifier

/- What the five lines of a resource say. -/
structure Inclusion where
  symbol : String
  align : Nat
  name : String
  deriving DecidableEq

/- What is said of a resource with an alignment. -/
def inclusionOf
    (align : Nat)
    (r : Resource) : Inclusion :=
  ⟨r.symbol, align, r.name⟩

/-
  What five lines say: one symbol, made global and set as label, an
  alignment, the name of a file and nothing behind it, and a zero.
-/
def inclusion?
    (first second third fourth fifth : String) : Option Inclusion := do
  let symbol ← between? "    .global " "" first.toList
  let digits ← between? "    .align " "" second.toList
  let align ← Decimal.digits? digits.toList
  let label ← between? "" ":" third.toList
  let quoted ← "    .incbin \"".toList.isPrefixOf? fourth.toList
  let (name, ending) ← string? quoted
  if label = symbol ∧ ending = [] ∧ fifth = "    .byte 0" then
    return ⟨symbol, align, String.ofList name⟩
  else
    none

/- What lines say, five by five. -/
def inclusions? : List String → Option (List Inclusion)
  | [] => some []
  | first :: second :: third :: fourth :: fifth :: rest => do
    let inclusion ← inclusion? first second third fourth fifth
    let others ← inclusions? rest
    return inclusion :: others
  | _ => none

/- What an assembly file says behind the line of its section. -/
def read
    (text : String) : Option (List Inclusion) :=
  match linesOf text with
  | first :: rest =>
    if first = ".section .rodata" then inclusions? rest else none
  | [] => none

theorem inclusion?_block
    (align : Nat)
    (r : Resource) :
    inclusion? ("    .global " ++ r.symbol)
        ("    .align " ++ toString align) (r.symbol ++ ":")
        ("    .incbin \"" ++ operand r.name ++ "\"") "    .byte 0" =
      some (inclusionOf align r) := by
  have hGlobal := between?_append "    .global " "" r.symbol
  have hAlign := between?_append "    .align " "" (toString align)
  have hLabel := between?_append "" ":" r.symbol
  have hQuoted : "    .incbin \"".toList.isPrefixOf?
      ("    .incbin \"" ++ operand r.name ++ "\"").toList =
        some ((operand r.name).toList ++ ['"']) := by
    rw [String.append_assoc, String.toList_append, String.toList_append,
      isPrefixOf?_append]
    rfl
  rw [String.append_empty] at hGlobal hAlign
  rw [String.empty_append] at hLabel
  unfold inclusion?
  simp only [hGlobal, hAlign, hLabel, hQuoted, string?_operand,
    Decimal.digits?_toString, Option.bind_eq_bind, Option.bind_some,
    and_self, if_true, String.ofList_toList]
  rfl

/- The lines of resources are read back in order. -/
theorem inclusions?_flatMap
    (align : Nat)
    (rs : List Resource) :
    inclusions? (rs.flatMap (block align)) =
      some (rs.map (inclusionOf align)) := by
  induction rs with
  | nil => rfl
  | cons r rest ih =>
    rw [List.flatMap_cons, block]
    simp only [List.cons_append, List.nil_append, inclusions?,
      inclusion?_block, ih, Option.bind_eq_bind, Option.bind_some]
    rfl

theorem read_eq
    {rs : List Resource}
    (hSymbols : ∀ r ∈ rs, IsWord r.symbol)
    (align : Nat) :
    read (render rs align) = some (rs.map (inclusionOf align)) := by
  rw [read, linesOf_render hSymbols, lines]
  simp only [if_true]
  exact inclusions?_flatMap align rs

/- The lines of an assembly file, and nothing behind the last. -/
theorem splitOn_render
    {rs : List Resource}
    (hSymbols : ∀ r ∈ rs, IsWord r.symbol)
    (align : Nat) :
    splitOn '\n' (render rs align) =
      ".section .rodata" :: rs.flatMap (block align) ++ [""] :=
  splitOn_unlines (isLine_of_mem_lines hSymbols align)

/- A list of resources as an assembly file shows it. -/
def shown
    (rs : List Resource) : List (String × String) :=
  rs.map fun r => (r.symbol, r.name)

/-
  With sanitized symbols, and whatever the names are, an assembly file
  has a first line and five lines for each resource.  The operand of
  each `.incbin` is read back as the name and leaves nothing over, and
  no other list of symbols and names has the same text.
-/
theorem lossless_render
    {rs : List Resource}
    (hSymbols : ∀ r ∈ rs, ∃ policy raw,
      sanitize policy raw = .ok r.symbol)
    (align : Nat) :
    splitOn '\n' (render rs align) =
        ".section .rodata" :: (rs.flatMap fun r =>
          ["    .global " ++ r.symbol,
            "    .align " ++ toString align,
            r.symbol ++ ":",
            "    .incbin \"" ++ operand r.name ++ "\"",
            "    .byte 0"]) ++ [""] ∧
      (∀ r ∈ rs, string? ((operand r.name).toList ++ ['"']) =
        some (r.name.toList, [])) ∧
      read (render rs align) =
        some (rs.map fun r => ⟨r.symbol, align, r.name⟩) ∧
      ∀ rs' align',
        (∀ r ∈ rs', ∃ policy raw, sanitize policy raw = .ok r.symbol) →
        render rs' align' = render rs align → shown rs' = shown rs := by
  have hWords : ∀ {rs : List Resource}, (∀ r ∈ rs, ∃ policy raw,
      sanitize policy raw = .ok r.symbol) → ∀ r ∈ rs, IsWord r.symbol := by
    intro rs hSymbols r hMem
    rcases hSymbols r hMem with ⟨_, _, hSanitize⟩
    exact isWord_of_sanitize hSanitize
  refine ⟨splitOn_render (hWords hSymbols) align, ?_,
    read_eq (hWords hSymbols) align, ?_⟩
  · intro r _
    exact string?_operand r.name []
  · intro rs' align' hSymbols' hSame
    have hRead := read_eq (hWords hSymbols') align'
    rw [hSame, read_eq (hWords hSymbols), Option.some.injEq] at hRead
    have hShown := congrArg
      (List.map fun i : Inclusion => (i.symbol, i.name)) hRead
    rw [List.map_map, List.map_map] at hShown
    exact hShown.symm

/- Names with quotes, backslashes, a control character and a digit. -/
def awkward : List Resource := [
  ⟨"", "\x017\"\\", "/data/a", 1, "_017_22_5c", "_017_22_5c"⟩,
  ⟨"", "b\n    .global x", "/data/b", 1, "b_0a_20_20_20_20_global_20x",
    "b_0a_20_20_20_20_global_20x"⟩]

/- They take eleven lines, and their names are read back. -/
theorem lossless_render_sample :
    (∀ r ∈ awkward, ∃ policy raw, sanitize policy raw = .ok r.symbol) ∧
      splitOn '\n' (render awkward 4) = [
        ".section .rodata",
        "    .global _017_22_5c",
        "    .align 4",
        "_017_22_5c:",
        "    .incbin \"\\0017\\\"\\\\\"",
        "    .byte 0",
        "    .global b_0a_20_20_20_20_global_20x",
        "    .align 4",
        "b_0a_20_20_20_20_global_20x:",
        "    .incbin \"b\\012    .global x\"",
        "    .byte 0",
        ""] ∧
      read (render awkward 4) = some [
        ⟨"_017_22_5c", 4, "\x017\"\\"⟩,
        ⟨"b_0a_20_20_20_20_global_20x", 4, "b\n    .global x"⟩] := by
  have hSymbols : ∀ r ∈ awkward, ∃ policy raw,
      sanitize policy raw = .ok r.symbol := by
    unfold awkward
    rw [List.forall_mem_cons, List.forall_mem_singleton]
    exact ⟨⟨.escape, "\x017\"\\", by decide +kernel⟩,
      ⟨.escape, "b\n    _global x", by decide +kernel⟩⟩
  rcases lossless_render hSymbols 4 with ⟨hLines, -, hRead, -⟩
  exact ⟨hSymbols, hLines.trans (by decide +kernel), hRead⟩

end Assembly

end ResourcePack
