import ResourcePack.Proofs.Header.Reader
import ResourcePack.Proofs.Identifier.Escapes

/-
  The identifiers in the lines of a header.

  Key definitions include:
    * `ResourcePack.Header.Mode`
    * `ResourcePack.Header.Token`
    * `ResourcePack.Header.tokens`
    * `ResourcePack.Header.identifiers`
    * `ResourcePack.Header.expanded`

  Main declarations:
    * `ResourcePack.Header.flatMap_text_tokens`
    * `ResourcePack.Header.names_append_break`
    * `ResourcePack.Header.names_of_isName`
    * `ResourcePack.Header.names_classText`
    * `ResourcePack.Header.expanded_eq_iff`

  A line falls into runs of letters, digits and underscores, and the
  characters between them; inside a string literal there are no runs.
  A run that does not begin with a digit is an identifier.  Where a
  line has a character that is neither in a run nor a quote, its
  identifiers are those on both sides of that character.
-/

------------------------------------------------------------
-- Tokens
------------------------------------------------------------

namespace ResourcePack

namespace Header

open Identifier

/- Where a character stands: in code, in a literal, or escaped in one. -/
inductive Mode where
  | code
  | literal
  | escaped
  deriving DecidableEq

/- Where the next character stands. -/
def Mode.next : Mode → Char → Mode
  | .code, c => if c = '"' then .literal else .code
  | .literal, c =>
    if c = '"' then .code else if c = '\\' then .escaped else .literal
  | .escaped, _ => .literal

/- A run of characters of identifiers, or any other character. -/
inductive Token where
  | run (chars : List Char)
  | other (c : Char)
  deriving DecidableEq

namespace Token

/- The characters of a token. -/
def text : Token → List Char
  | run chars => chars
  | other c => [c]

/- The identifier that a token is. -/
def identifier? : Token → Option String
  | run chars =>
    if startsWithDigit chars then none else some (String.ofList chars)
  | other _ => none

end Token

/- A character of identifiers in front of tokens, as part of a run. -/
def attach
    (c : Char) : List Token → List Token
  | .run chars :: following => .run (c :: chars) :: following
  | following => .run [c] :: following

/- The tokens of a text that begins in a given place. -/
def tokens
    (mode : Mode) : List Char → List Token
  | [] => []
  | c :: rest =>
    if mode = .code ∧ isIdentChar c = true then
      attach c (tokens .code rest)
    else
      .other c :: tokens (mode.next c) rest

/- The identifiers of a piece of code. -/
def names
    (text : List Char) : List String :=
  (tokens .code text).filterMap Token.identifier?

/- The identifiers of a line. -/
def identifiers
    (line : String) : List String :=
  names line.toList

end Header

end ResourcePack

------------------------------------------------------------
-- Identifiers of Pieces
------------------------------------------------------------

namespace ResourcePack

namespace Header

open Identifier

/- A character is the first one of what it is attached to. -/
theorem flatMap_text_attach
    (c : Char)
    (following : List Token) :
    (attach c following).flatMap Token.text =
      c :: following.flatMap Token.text := by
  fun_cases attach c following <;> rfl

/- The tokens of a text make up the text. -/
theorem flatMap_text_tokens
    (mode : Mode)
    (text : List Char) :
    (tokens mode text).flatMap Token.text = text := by
  induction text generalizing mode with
  | nil => rfl
  | cons c rest ih =>
    rw [tokens]
    by_cases hRun : mode = .code ∧ isIdentChar c = true
    · rw [if_pos hRun, flatMap_text_attach, ih]
    · rw [if_neg hRun, List.flatMap_cons, ih]
      rfl

/- A piece of code in which every literal that it opens is closed. -/
def Closed
    (text : List Char) : Prop :=
  text.foldl Mode.next .code = .code

instance : DecidablePred Closed :=
  fun text => inferInstanceAs
    (Decidable (text.foldl Mode.next .code = .code))

theorem closed_of_not_mem
    {text : List Char}
    (hText : '"' ∉ text) :
    Closed text := by
  unfold Closed
  induction text with
  | nil => rfl
  | cons c rest ih =>
    rw [List.mem_cons, not_or] at hText
    rw [List.foldl_cons, Mode.next, if_neg (Ne.symm hText.1), ih hText.2]

/- Behind a character of identifiers, code goes on. -/
theorem next_code_of_isIdentChar
    {c : Char}
    (hIdent : isIdentChar c = true) :
    Mode.code.next c = .code := by
  apply if_neg
  rintro rfl
  exact absurd hIdent (by decide)

/- What is attached in front of a character is attached to what is there. -/
theorem attach_append_other
    (c d : Char)
    (before after : List Token) :
    attach c (before ++ .other d :: after) =
      attach c before ++ .other d :: after := by
  cases before with
  | nil => rfl
  | cons first rest => cases first <;> rfl

/- Tokens do not go across a character of code that ends runs. -/
theorem tokens_append_break
    {mode : Mode}
    {text : List Char}
    (hText : text.foldl Mode.next mode = .code)
    {c : Char}
    (hBreak : isIdentChar c = false)
    (hQuote : c ≠ '"')
    (rest : List Char) :
    tokens mode (text ++ c :: rest) =
      tokens mode text ++ .other c :: tokens .code rest := by
  induction text generalizing mode with
  | nil =>
    have hMode : mode = .code := hText
    have hOther : tokens .code (c :: rest) =
        .other c :: tokens .code rest := by
      rw [tokens, if_neg (by simp [hBreak]), Mode.next, if_neg hQuote]
    rw [hMode]
    exact hOther
  | cons d text ih =>
    rw [List.foldl_cons] at hText
    rw [List.cons_append, tokens, tokens]
    by_cases hRun : mode = .code ∧ isIdentChar d = true
    · rw [hRun.1, next_code_of_isIdentChar hRun.2] at hText
      rw [if_pos hRun, if_pos hRun, ih hText, attach_append_other]
    · rw [if_neg hRun, if_neg hRun, ih hText]
      rfl

/-
  The identifiers around a character that ends runs are those before
  it and those behind it.
-/
theorem names_append_break
    {text : List Char}
    (hText : Closed text)
    {c : Char}
    (hBreak : isIdentChar c = false)
    (hQuote : c ≠ '"')
    (rest : List Char) :
    names (text ++ c :: rest) = names text ++ names rest := by
  unfold names
  rw [tokens_append_break hText hBreak hQuote, List.filterMap_append,
    List.filterMap_cons_none rfl]

/- A character that ends runs belongs to no identifier. -/
theorem names_cons_break
    {c : Char}
    (hBreak : isIdentChar c = false)
    (hQuote : c ≠ '"')
    (rest : List Char) :
    names (c :: rest) = names rest := by
  have hNil : Closed [] := rfl
  exact names_append_break hNil hBreak hQuote rest

/- A piece of code that ends in a character that ends runs. -/
def Ended
    (text : List Char) : Prop :=
  Closed text ∧
    (text.getLast?.any fun c => !isIdentChar c && c != '"') = true

instance : DecidablePred Ended :=
  fun _ => inferInstanceAs (Decidable (_ ∧ _))

/- Only a quote leads from a literal back to code. -/
theorem eq_code_of_next
    {mode : Mode}
    {c : Char}
    (hNext : mode.next c = .code)
    (hQuote : c ≠ '"') :
    mode = .code := by
  cases mode with
  | code => rfl
  | literal =>
    rw [Mode.next, if_neg hQuote] at hNext
    by_cases hEscape : c = '\\' <;> simp [hEscape] at hNext
  | escaped => cases hNext

/- Behind such a piece new identifiers begin. -/
theorem names_append_of_ended
    {text : List Char}
    (hText : Ended text)
    (rest : List Char) :
    names (text ++ rest) = names text ++ names rest := by
  rcases hText with ⟨hClosed, hLast⟩
  rcases List.eq_nil_or_concat text with rfl | ⟨init, c, rfl⟩
  · cases hLast
  · rw [List.concat_eq_append] at hClosed hLast ⊢
    rw [List.getLast?_concat, Option.any_some, Bool.and_eq_true,
      Bool.not_eq_true', bne_iff_ne] at hLast
    rcases hLast with ⟨hBreak, hQuote⟩
    have hInit : Closed init := by
      unfold Closed at hClosed ⊢
      rw [List.foldl_append] at hClosed
      exact eq_code_of_next hClosed hQuote
    have hNil : names [] = [] := rfl
    rw [List.append_assoc, List.singleton_append,
      names_append_break hInit hBreak hQuote,
      names_append_break hInit hBreak hQuote, hNil, List.append_nil]

/- A run of characters of identifiers is one token. -/
theorem tokens_run
    {chars : List Char}
    (hChars : ∀ c ∈ chars, isIdentChar c = true)
    (hNe : chars ≠ []) :
    tokens .code chars = [.run chars] := by
  induction chars with
  | nil => exact absurd rfl hNe
  | cons c rest ih =>
    rw [List.forall_mem_cons] at hChars
    rw [tokens, if_pos ⟨rfl, hChars.1⟩]
    cases rest with
    | nil => rfl
    | cons d others => rw [ih hChars.2 (List.cons_ne_nil d others), attach]

/- A name is the only identifier in it. -/
theorem names_of_isName
    {name : String}
    (hName : IsName name) :
    names name.toList = [name] := by
  rcases isName_iff.mp hName with ⟨hWord, hDigit⟩
  have hNe : name.toList ≠ [] := by
    intro hNil
    exact hWord.ne_empty (String.toList_eq_nil_iff.mp hNil)
  have hIdentifier : (Token.run name.toList).identifier? = some name := by
    simp [Token.identifier?, hDigit]
  unfold names
  rw [tokens_run hWord.chars hNe, List.filterMap_cons_some hIdentifier]
  rfl

/- A name in front of a character that ends runs is an identifier. -/
theorem names_name_append
    {name : String}
    (hName : IsName name)
    {c : Char}
    (hBreak : isIdentChar c = false)
    (hQuote : c ≠ '"')
    (rest : List Char) :
    names (name.toList ++ c :: rest) = name :: names rest := by
  have hClosed : Closed name.toList :=
    closed_of_not_mem ((isName_iff.mp hName).1.not_mem rfl)
  rw [names_append_break hClosed hBreak hQuote, names_of_isName hName]
  rfl

theorem names_toString
    (n : Nat) :
    names (toString n).toList = [] := by
  have hDigits : ∀ c ∈ (toString n).toList, c.isDigit = true :=
    fun c hMem => Decimal.isDigit_of_mem_toString hMem
  have hNe : (toString n).toList ≠ [] := by
    rw [Decimal.toList_toString]
    exact Nat.toDigits_ne_nil
  have hChars : ∀ c ∈ (toString n).toList, isIdentChar c = true := by
    intro c hMem
    exact isIdentChar_iff.mpr (Or.inr (isDigit_iff.mp (hDigits c hMem)))
  have hDigit : startsWithDigit (toString n).toList = true := by
    cases hList : (toString n).toList with
    | nil => exact absurd hList hNe
    | cons c rest =>
      apply hDigits c
      rw [hList]
      exact List.mem_cons_self
  have hNone : (Token.run (toString n).toList).identifier? = none :=
    if_pos hDigit
  unfold names
  rw [tokens_run hChars hNe, List.filterMap_cons_none hNone]
  rfl

theorem names_unindented
    (line : String) :
    names (Text.unindented line) = identifiers line := by
  unfold identifiers Text.unindented
  induction line.toList with
  | nil => rfl
  | cons c rest ih =>
    rw [List.dropWhile_cons]
    by_cases hIndent : Text.isIndent c = true
    · have hBreak : isIdentChar c = false ∧ c ≠ '"' := by
        simp only [Text.isIndent, Bool.or_eq_true,
          decide_eq_true_eq] at hIndent
        rcases hIndent with rfl | rfl <;> decide
      rw [if_pos hIndent, ih, names_cons_break hBreak.1 hBreak.2]
    · rw [if_neg hIndent]

end Header

end ResourcePack

------------------------------------------------------------
-- Class Names
------------------------------------------------------------

namespace ResourcePack

namespace HeaderOptions

theorem scopePieces_ne_nil
    (text : List Char) :
    scopePieces text ≠ [] := by
  fun_cases scopePieces text <;> simp

/- A text is its first piece, and the others behind colons. -/
theorem eq_of_scopePieces
    {text first : List Char}
    {others : List (List Char)}
    (hPieces : scopePieces text = first :: others) :
    text = first ++ others.flatMap fun piece => ':' :: ':' :: piece := by
  fun_induction scopePieces text generalizing first others with
  | case1 rest ih =>
    rw [List.cons.injEq] at hPieces
    rcases hPieces with ⟨rfl, hOthers⟩
    cases others with
    | nil => exact absurd hOthers (scopePieces_ne_nil rest)
    | cons piece others =>
      rw [List.nil_append, List.flatMap_cons, List.cons_append,
        List.cons_append, ← ih hOthers]
  | case2 c rest hNot hNil ih => exact absurd hNil (scopePieces_ne_nil rest)
  | case3 c rest hNot piece others' hSome ih =>
    rw [List.cons.injEq] at hPieces
    rcases hPieces with ⟨rfl, rfl⟩
    rw [List.cons_append, ← ih hSome]
  | case4 =>
    cases hPieces
    rfl

end HeaderOptions

namespace Header

open HeaderOptions Identifier

/- The identifiers of pieces behind colons are the pieces. -/
theorem names_scoped
    {first : List Char}
    {others : List (List Char)}
    (hPieces : ∀ piece ∈ first :: others, IsName (String.ofList piece)) :
    names (first ++ others.flatMap fun piece => ':' :: ':' :: piece) =
      (first :: others).map String.ofList := by
  induction others generalizing first with
  | nil =>
    have hFirst := names_of_isName (hPieces first List.mem_cons_self)
    rw [String.toList_ofList] at hFirst
    rw [List.flatMap_nil, List.append_nil, hFirst]
    rfl
  | cons piece others ih =>
    rw [List.forall_mem_cons] at hPieces
    have hFirst := fun rest =>
      names_name_append hPieces.1 (c := ':') rfl (by decide) rest
    rw [String.toList_ofList] at hFirst
    rw [List.flatMap_cons, List.cons_append, List.cons_append, hFirst,
      names_cons_break rfl (by decide), ih hPieces.2]
    rfl

/- The colons at the front of a class name hold no identifiers. -/
theorem names_relativeClass
    (text : List Char) :
    names (relativeClass text) = names text := by
  fun_cases relativeClass text with
  | case1 rest =>
    rw [names_cons_break rfl (by decide),
      names_cons_break rfl (by decide)]
  | case2 => rfl

/- The identifiers of a class name are its parts. -/
theorem identifiers_class
    {text : String}
    (hParts : ∀ part ∈ classParts text, IsName part) :
    identifiers text = classParts text := by
  unfold identifiers classParts at *
  rw [← names_relativeClass]
  cases hPieces : scopePieces (relativeClass text.toList) with
  | nil => exact absurd hPieces (scopePieces_ne_nil _)
  | cons first others =>
    rw [hPieces, List.forall_mem_map] at hParts
    rw [eq_of_scopePieces hPieces, names_scoped hParts]

end Header

end ResourcePack

------------------------------------------------------------
-- Items
------------------------------------------------------------

namespace ResourcePack

namespace Header

open HeaderOptions Identifier

namespace Item

/- The identifiers that every line of its kind has. -/
def keywords : Item → List String
  | opened _ _ => ["namespace"]
  | closed _ _ => []
  | external _ _ => ["extern", "const", "char"]
  | object _ _ => ["constexpr", "const"]

/- The names that an item is written with. -/
def spells : Item → List String
  | opened _ path => [path.getLast?.getD ""]
  | closed _ _ => []
  | external _ symbol => [symbol]
  | object _ e =>
    classParts e.resourceClass ++ [e.ident, externalsName, e.symbol]

end Item

theorem names_opening
    {name : String}
    (hName : IsName name) :
    names ("namespace " ++ (name ++ " \x7b")).toList =
      ["namespace", name] := by
  have hOpening : Ended "namespace ".toList ∧
      names "namespace ".toList = ["namespace"] := by
    decide +kernel
  have hBrace : names (name.toList ++ " \x7b".toList) = [name] :=
    names_name_append hName rfl (by decide) ['\x7b']
  rw [String.toList_append, String.toList_append,
    names_append_of_ended hOpening.1, hOpening.2, hBrace]
  rfl

/- The identifiers on the line of an item: keywords, then its names. -/
theorem identifiers_line
    {path : List String}
    {item : Item}
    (hReadable : item.Readable path)
    (hNames : ∀ name ∈ item.spells, IsName name) :
    identifiers item.line = item.keywords ++ item.spells := by
  rw [← names_unindented]
  cases item with
  | opened n path' =>
    rcases hReadable with ⟨name, -, rfl⟩
    have hSpells : (Item.opened n (path ++ [name])).spells = [name] := by
      rw [Item.spells, List.getLast?_concat, Option.getD_some]
    rw [hSpells, List.forall_mem_singleton] at hNames
    rw [hSpells, unindented_opened, names_opening hNames]
    rfl
  | closed n path' =>
    rw [unindented_closed]
    rfl
  | external path' symbol =>
    have hSymbol : IsName symbol := hNames symbol (by simp [Item.spells])
    have hOpening : Ended "extern \"C\" const char ".toList ∧
        names "extern \"C\" const char ".toList =
          ["extern", "const", "char"] := by
      decide +kernel
    have hBracket : names (symbol.toList ++ "[];".toList) = [symbol] :=
      names_name_append hSymbol rfl (by decide) [']', ';']
    rw [unindented_external, String.toList_append, String.toList_append,
      names_append_of_ended hOpening.1, hOpening.2, hBracket]
    rfl
  | object n e =>
    have hParts : ∀ part ∈ classParts e.resourceClass, IsName part :=
      fun part hPart => hNames part (List.mem_append_left _ hPart)
    have hIdent : IsName e.ident := hNames _ (by simp [Item.spells])
    have hSymbol : IsName e.symbol := hNames _ (by simp [Item.spells])
    have hClass : names e.resourceClass.toList =
        classParts e.resourceClass :=
      identifiers_class hParts
    have hClassClosed : Closed e.resourceClass.toList :=
      closed_of_not_mem
        (not_mem_of_isClassName hReadable.2.1 rfl (by decide))
    have hOpening : Ended "constexpr const ".toList ∧
        names "constexpr const ".toList = ["constexpr", "const"] := by
      decide +kernel
    have hBlock : Ended "externals::".toList ∧
        names "externals::".toList = [externalsName] := by
      decide +kernel
    have hSize : names (" ".toList ++
        ((toString e.size).toList ++ ')' :: [';'])) = [] := by
      have hClosed : Closed (toString e.size).toList := by
        apply closed_of_not_mem
        intro hMem
        exact absurd (Decimal.isDigit_of_mem_toString hMem) (by decide)
      have hSpace : Ended " ".toList := by decide
      rw [names_append_of_ended hSpace,
        names_append_break hClosed rfl (by decide), names_toString]
      rfl
    rw [unindented_object]
    unfold objectText
    rw [names_append_of_ended hOpening.1, hOpening.2,
      names_append_break hClassClosed rfl (by decide), hClass,
      names_name_append hIdent rfl (by decide),
      names_append_of_ended hBlock.1, hBlock.2,
      names_name_append hSymbol rfl (by decide), hSize]
    rfl

end Header

end ResourcePack

------------------------------------------------------------
-- Macros
------------------------------------------------------------

namespace ResourcePack

namespace Header

open Identifier

/- The characters of a token where an identifier stands for nothing. -/
def Token.expand
    (macroName : String)
    (token : Token) : List Char :=
  if token.identifier? = some macroName then [] else token.text

/- Whether a line is for the preprocessor. -/
def isDirective
    (line : String) : Bool :=
  (Text.unindented line).head? = some '#'

/-
  A line after preprocessing, where an identifier is a macro without
  a text.  Directives are not expanded.
-/
def expanded
    (macroName line : String) : String :=
  if isDirective line then
    line
  else
    String.ofList
      ((tokens .code line.toList).flatMap (Token.expand macroName))

theorem length_expand_le
    (macroName : String)
    (found : List Token) :
    (found.flatMap (Token.expand macroName)).length ≤
      (found.flatMap Token.text).length := by
  induction found with
  | nil => exact Nat.le_refl _
  | cons token rest ih =>
    have hToken : (token.expand macroName).length ≤ token.text.length := by
      unfold Token.expand
      by_cases hSame : token.identifier? = some macroName
      · rw [if_pos hSame]
        exact Nat.zero_le _
      · rw [if_neg hSame]
    rw [List.flatMap_cons, List.flatMap_cons, List.length_append,
      List.length_append]
    exact Nat.add_le_add hToken ih

/- A macro among tokens makes what they expand to shorter. -/
theorem length_expand_lt
    {macroName : String}
    (hNe : macroName ≠ "")
    {found : List Token}
    (hMem : macroName ∈ found.filterMap Token.identifier?) :
    (found.flatMap (Token.expand macroName)).length <
      (found.flatMap Token.text).length := by
  rcases List.mem_filterMap.mp hMem with ⟨token, hToken, hSame⟩
  rcases List.append_of_mem hToken with ⟨before, after, rfl⟩
  have hBefore := length_expand_le macroName before
  have hAfter := length_expand_le macroName after
  have hGone : (token.expand macroName).length = 0 := by
    rw [Token.expand, if_pos hSame]
    rfl
  have hThere : 0 < token.text.length := by
    cases token with
    | other c => exact Nat.one_pos
    | run chars =>
      apply List.length_pos_of_ne_nil
      rintro rfl
      exact hNe (Option.some.inj hSame).symm
  simp only [List.flatMap_append, List.flatMap_cons, List.length_append]
  omega

/-
  Preprocessing leaves a line as it is exactly if the line is a
  directive or the macro is no identifier in it.
-/
theorem expanded_eq_iff
    {macroName : String}
    (hNe : macroName ≠ "")
    (line : String) :
    expanded macroName line = line ↔
      isDirective line = true ∨ macroName ∉ identifiers line := by
  unfold expanded identifiers names
  by_cases hDirective : isDirective line = true
  · simp [hDirective]
  · rw [if_neg hDirective, or_iff_right hDirective]
    constructor
    · intro hSame hMem
      have hShorter := length_expand_lt hNe hMem
      have hList := congrArg String.toList hSame
      rw [String.toList_ofList] at hList
      rw [hList, flatMap_text_tokens] at hShorter
      exact Nat.lt_irrefl _ hShorter
    · intro hNone
      have hKept : ∀ token ∈ tokens .code line.toList,
          token.expand macroName = token.text := by
        intro token hToken
        apply if_neg
        intro hSame
        exact hNone (List.mem_filterMap.mpr ⟨token, hToken, hSame⟩)
      rw [List.flatMap_congr hKept, flatMap_text_tokens,
        String.ofList_toList]

end Header

end ResourcePack
