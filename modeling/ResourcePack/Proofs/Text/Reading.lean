import ResourcePack.Decimal
import ResourcePack.Proofs.Text.Pieces

/-
  Reading texts that were written line by line.

  Key definitions include:
    * `ResourcePack.Text.linesOf`
    * `ResourcePack.Text.IsLine`
    * `ResourcePack.Text.notBlank`
    * `ResourcePack.Text.indentOf`
    * `ResourcePack.Text.unindented`
    * `ResourcePack.Text.between?`
    * `ResourcePack.Text.cut?`

  Main declarations:
    * `ResourcePack.Text.linesOf_unlines`
    * `ResourcePack.Text.between?_append`
    * `ResourcePack.Text.cut?_append`
    * `ResourcePack.Decimal.digits?_toString`

  The readers know nothing of what wrote a text.  Each comes with
  the one equation that says what it reads from something written:
  lines without line feeds come back, and so does what stands
  between two fixed texts, what stands before a mark that it does
  not contain, and a number in decimal digits.
-/

------------------------------------------------------------
-- Lines
------------------------------------------------------------

namespace ResourcePack

namespace Text

/-
  The lines of a text.  What follows the last line feed is a line
  only if there is something.
-/
def linesOf
    (text : String) : List String :=
  match (splitOn '\n' text).getLast? with
  | some "" => (splitOn '\n' text).dropLast
  | _ => splitOn '\n' text

/- A text without line feeds. -/
def IsLine
    (text : String) : Prop :=
  '\n' ∉ text.toList

instance
    (text : String) :
    Decidable (IsLine text) :=
  inferInstanceAs (Decidable ('\n' ∉ text.toList))

theorem IsLine.append
    {first last : String}
    (hFirst : IsLine first)
    (hLast : IsLine last) :
    IsLine (first ++ last) := by
  unfold IsLine
  rw [String.toList_append, List.mem_append, not_or]
  exact ⟨hFirst, hLast⟩

theorem isLine_spaces
    (n : Nat) :
    IsLine (spaces n) := by
  unfold IsLine spaces
  rw [String.toList_ofList, List.mem_replicate]
  intro hFeed
  exact absurd hFeed.2 (by decide)

/- A text of lines falls into them, and nothing at the end. -/
theorem splitOn_unlines
    {lines : List String}
    (hLines : ∀ line ∈ lines, IsLine line) :
    splitOn '\n' (unlines lines) = lines ++ [""] := by
  unfold splitOn
  induction lines with
  | nil => rfl
  | cons line rest ih =>
    rw [List.forall_mem_cons] at hLines
    have hText : (unlines (line :: rest)).toList =
        line.toList ++ '\n' :: (unlines rest).toList := by
      simp [unlines]
    rw [hText, pieces_append hLines.1, List.map_cons, ih hLines.2,
      String.ofList_toList]
    rfl

/- Lines without line feeds are read back. -/
theorem linesOf_unlines
    {lines : List String}
    (hLines : ∀ line ∈ lines, IsLine line) :
    linesOf (unlines lines) = lines := by
  unfold linesOf
  rw [splitOn_unlines hLines]
  simp

end Text

end ResourcePack

------------------------------------------------------------
-- Parts of a Line
------------------------------------------------------------

namespace ResourcePack

namespace Text

/- Whether a line is not blank. -/
def notBlank
    (line : String) : Bool :=
  line ≠ ""

/- A line that ends in something is not blank. -/
theorem notBlank_append
    (first : String)
    {last : String}
    (hLast : last ≠ "") :
    notBlank (first ++ last) = true := by
  unfold notBlank
  rw [decide_eq_true_eq]
  intro hEmpty
  exact hLast (String.append_eq_empty_iff.mp hEmpty).2

/- The blank line that stands for no lines is no line of its own. -/
theorem filter_orBlank
    (lines : List String) :
    (orBlank lines).filter notBlank = lines.filter notBlank := by
  cases lines <;> rfl

/- Whether a character is used to indent a line. -/
def isIndent
    (c : Char) : Bool :=
  c = ' ' || c = '\t'

/- The number of spaces that a line begins with. -/
def indentOf
    (line : String) : Nat :=
  (line.toList.takeWhile fun c => c = ' ').length

/- A line without the spaces and tabs that it begins with. -/
def unindented
    (line : String) : List Char :=
  line.toList.dropWhile isIndent

/- What stands between two texts that a line begins and ends with. -/
def between?
    (before after : String)
    (line : List Char) : Option String := do
  let rest ← before.toList.isPrefixOf? line
  let inner ← after.toList.isSuffixOf? rest
  return String.ofList inner

/- What stands before and after the first occurrence of a mark. -/
def cut?
    (mark : Char) : List Char → Option (List Char × List Char)
  | [] => none
  | c :: rest =>
    if c = mark then
      some ([], rest)
    else
      (cut? mark rest).map fun halves => (c :: halves.1, halves.2)

/- Spaces are followed by what is not indented any further. -/
theorem dropWhile_spaces
    (n : Nat)
    {c : Char}
    (hSolid : isIndent c = false)
    (rest : List Char) :
    ((spaces n).toList ++ c :: rest).dropWhile isIndent =
      c :: rest := by
  unfold spaces
  rw [String.toList_ofList]
  induction n with
  | zero => simp [hSolid]
  | succ n ih =>
    rw [List.replicate_succ, List.cons_append, List.dropWhile_cons]
    simpa [isIndent] using ih

theorem unindented_spaces
    (n : Nat)
    {text : String}
    {c : Char}
    {rest : List Char}
    (hText : text.toList = c :: rest)
    (hSolid : isIndent c = false) :
    unindented (spaces n ++ text) = text.toList := by
  unfold unindented
  rw [String.toList_append, hText]
  exact dropWhile_spaces n hSolid rest

theorem indentOf_spaces
    (n : Nat)
    {text : String}
    {c : Char}
    {rest : List Char}
    (hText : text.toList = c :: rest)
    (hSolid : isIndent c = false) :
    indentOf (spaces n ++ text) = n := by
  have hSpace : c ≠ ' ' := by
    rintro rfl
    exact Bool.false_ne_true hSolid.symm
  unfold indentOf
  rw [String.toList_append, hText, spaces, String.toList_ofList,
    List.takeWhile_append_of_pos (by simp)]
  simp [hSpace]

/- A text that begins with another, without it. -/
theorem isPrefixOf?_append
    (first rest : List Char) :
    first.isPrefixOf? (first ++ rest) = some rest := by
  rw [List.isPrefixOf?_eq_some_iff_append_eq]

/- What was put between two texts is read back. -/
theorem between?_append
    (before after inner : String) :
    between? before after (before ++ (inner ++ after)).toList =
      some inner := by
  have hSuffix : after.toList.isSuffixOf?
      (inner.toList ++ after.toList) = some inner.toList := by
    rw [List.isSuffixOf?_eq_some_iff_append_eq]
  unfold between?
  rw [String.toList_append, String.toList_append,
    isPrefixOf?_append, Option.bind_eq_bind, Option.bind_some,
    hSuffix, Option.bind_some, String.ofList_toList]
  rfl

/- A line that begins otherwise has nothing in between. -/
theorem between?_eq_none
    {before after : String}
    {c d : Char}
    {start line : List Char}
    (hBefore : before.toList = c :: start)
    (hNe : c ≠ d) :
    between? before after (d :: line) = none := by
  unfold between?
  rw [hBefore]
  simp [List.isPrefixOf?, hNe]

/- What stands before a mark is cut off at it. -/
theorem cut?_append
    {mark : Char}
    {first : List Char}
    (hFirst : mark ∉ first)
    (rest : List Char) :
    cut? mark (first ++ mark :: rest) = some (first, rest) := by
  induction first with
  | nil => simp [cut?]
  | cons c first ih =>
    rw [List.mem_cons, not_or] at hFirst
    have hNe : c ≠ mark := Ne.symm hFirst.1
    rw [List.cons_append, cut?, if_neg hNe, ih hFirst.2]
    rfl

end Text

end ResourcePack

------------------------------------------------------------
-- Numbers
------------------------------------------------------------

namespace ResourcePack

namespace Decimal

/- A run of digits has the value that its digits make. -/
theorem digitsFrom_eq_some
    {digits : List Char}
    (hDigits : ∀ c ∈ digits, c.isDigit = true)
    (value : Nat) :
    digitsFrom value digits =
      some (Nat.ofDigitChars 10 digits value) := by
  induction digits generalizing value with
  | nil => simp [digitsFrom]
  | cons c rest ih =>
    rw [List.forall_mem_cons] at hDigits
    rw [digitsFrom, if_pos hDigits.1, ih hDigits.2,
      Nat.ofDigitChars_cons]
    rfl

theorem toList_toString
    (n : Nat) :
    (toString n).toList = Nat.toDigits 10 n := by
  rw [Nat.toString_eq_ofList_toDigits, String.toList_ofList]

theorem isDigit_of_mem_toString
    {n : Nat}
    {c : Char}
    (hMem : c ∈ (toString n).toList) :
    c.isDigit = true := by
  rw [toList_toString] at hMem
  exact Nat.isDigit_of_mem_toDigits (by decide) (by decide) hMem

theorem isLine_toString
    (n : Nat) :
    Text.IsLine (toString n) := by
  intro hMem
  have hDigit := isDigit_of_mem_toString hMem
  exact Bool.false_ne_true hDigit

/- A number is read back from its digits. -/
theorem digits?_toString
    (n : Nat) :
    digits? (toString n).toList = some n := by
  have hValue := digitsFrom_eq_some
    (fun _ hMem => isDigit_of_mem_toString (n := n) hMem) 0
  rw [toList_toString, Nat.ofDigitChars_ten_toDigits] at hValue
  have hNe : Nat.toDigits 10 n ≠ [] := Nat.toDigits_ne_nil
  rw [toList_toString]
  cases hList : Nat.toDigits 10 n with
  | nil => exact absurd hList hNe
  | cons c rest =>
    rw [hList] at hValue
    exact hValue

theorem isWord32_ofNat
    {n : Nat}
    (hSize : n < 4294967296) :
    isWord32 (Int.ofNat n) = true := by
  unfold isWord32
  rw [Bool.and_eq_true, decide_eq_true_eq, decide_eq_true_eq]
  exact ⟨Int.natCast_nonneg n, Int.ofNat_lt.mpr hSize⟩

theorem integer?_toString
    (n : Nat) :
    integer? (toString n).toList = some (Int.ofNat n) := by
  have hRead := digits?_toString n
  cases hList : (toString n).toList with
  | nil =>
    rw [hList] at hRead
    cases hRead
  | cons c rest =>
    have hDigit : c.isDigit = true :=
      isDigit_of_mem_toString (n := n) (hList ▸ List.mem_cons_self)
    rw [hList] at hRead
    rw [integer?, hRead]
    · rfl
    · rintro r hPlus
      cases hPlus
      exact absurd hDigit (by decide)
    · rintro r hMinus
      cases hMinus
      exact absurd hDigit (by decide)

end Decimal

end ResourcePack
