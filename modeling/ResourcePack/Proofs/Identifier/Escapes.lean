import Mathlib.Data.List.Infix
import ResourcePack.Proofs.Bundle.Policies

/-
  What identifiers are, and which of them escaping gives.

  Key definitions include:
    * `ResourcePack.Identifier.BeginsName`
    * `ResourcePack.Identifier.ContinuesName`
    * `ResourcePack.Identifier.IsName`

  Main declarations:
    * `ResourcePack.Identifier.fault?_eq_none_iff`
    * `ResourcePack.Identifier.not_reserved_of_escape`
    * `ResourcePack.Identifier.fault?_escaped`
    * `ResourcePack.Identifier.sanitize_image`

  An identifier is a letter or underscore followed by letters, digits
  and underscores, and no reserved word.  What is escaped is not
  checked again.  It is an identifier all the same: the only reserved
  words that hold an underscore and two hexadecimal digits are those
  with `_ca` before `st`, and a byte `ca` is never the last one of a
  character, so that another underscore would have to follow.
-/

------------------------------------------------------------
-- Grammar
------------------------------------------------------------

namespace ResourcePack

namespace Identifier

/- The characters that an identifier begins with. -/
def BeginsName
    (c : Char) : Prop :=
  ('A' ≤ c ∧ c ≤ 'Z') ∨ ('a' ≤ c ∧ c ≤ 'z') ∨ c = '_'

/- The characters that an identifier goes on with. -/
def ContinuesName
    (c : Char) : Prop :=
  BeginsName c ∨ ('0' ≤ c ∧ c ≤ '9')

/- A text of the form `[A-Za-z_][A-Za-z0-9_]*`. -/
def IsName
    (text : String) : Prop :=
  ∃ c rest, text.toList = c :: rest ∧ BeginsName c ∧
    ∀ d ∈ rest, ContinuesName d

theorem isDigit_iff
    {c : Char} :
    c.isDigit = true ↔ '0' ≤ c ∧ c ≤ '9' := by
  unfold Char.isDigit
  rw [Bool.and_eq_true, decide_eq_true_eq, decide_eq_true_eq]
  rfl

/- The characters of identifiers are those that one goes on with. -/
theorem isIdentChar_iff
    {c : Char} :
    isIdentChar c = true ↔ ContinuesName c := by
  have hUpper : c.isUpper = true ↔ 'A' ≤ c ∧ c ≤ 'Z' :=
    decide_eq_true_iff
  have hLower : c.isLower = true ↔ 'a' ≤ c ∧ c ≤ 'z' := by
    unfold Char.isLower
    rw [Bool.and_eq_true, decide_eq_true_eq, decide_eq_true_eq]
    rfl
  unfold isIdentChar Char.isAlphanum Char.isAlpha ContinuesName BeginsName
  rw [Bool.or_eq_true, Bool.or_eq_true, Bool.or_eq_true, hUpper, hLower,
    isDigit_iff, beq_iff_eq]
  exact or_right_comm.trans (or_congr_left or_assoc)

theorem BeginsName.not_isDigit
    {c : Char}
    (hBegins : BeginsName c) :
    ¬c.isDigit = true := by
  rw [isDigit_iff]
  rintro ⟨-, hLast⟩
  rcases hBegins with ⟨hFirst, -⟩ | ⟨hFirst, -⟩ | hEq
  · exact absurd (Char.le_trans hFirst hLast) (by decide)
  · exact absurd (Char.le_trans hFirst hLast) (by decide)
  · exact absurd (hEq ▸ hLast) (by decide)

/- A word that does not begin with a digit has the form of a name. -/
theorem isName_iff
    {text : String} :
    IsName text ↔
      IsWord text ∧ startsWithDigit text.toList = false := by
  constructor
  · rintro ⟨c, rest, hText, hBegins, hContinues⟩
    refine ⟨⟨?_, ?_⟩, ?_⟩
    · rintro rfl
      cases hText
    · intro d hMem
      rw [hText] at hMem
      rcases List.mem_cons.mp hMem with rfl | hRest
      · exact isIdentChar_iff.mpr (Or.inl hBegins)
      · exact isIdentChar_iff.mpr (hContinues d hRest)
    · rw [hText]
      exact Bool.eq_false_iff.mpr hBegins.not_isDigit
  · rintro ⟨hWord, hDigit⟩
    rcases hWord.exists_cons with ⟨c, rest, hText, hIdent⟩
    rw [hText] at hDigit
    refine ⟨c, rest, hText, ?_, ?_⟩
    · rcases isIdentChar_iff.mp hIdent with hBegins | hRange
      · exact hBegins
      · exact absurd (isDigit_iff.mpr hRange) (Bool.eq_false_iff.mp hDigit)
    · intro d hMem
      apply isIdentChar_iff.mp
      apply hWord.chars
      rw [hText]
      exact List.mem_cons_of_mem c hMem

/- A text has no fault exactly if it is a name and not reserved. -/
theorem fault?_eq_none_iff
    {text : String} :
    fault? text = none ↔ IsName text ∧ text ∉ reservedWords := by
  have hReserved : isReserved text = true ↔ text ∈ reservedWords :=
    List.contains_iff_mem
  rw [isName_iff, ← hReserved]
  constructor
  · intro hNone
    have hWord := isWord_of_fault?_eq_none hNone
    rw [fault?_of_isWord hWord] at hNone
    cases hDigit : startsWithDigit text.toList with
    | true => simp [hDigit] at hNone
    | false =>
      refine ⟨⟨hWord, rfl⟩, ?_⟩
      intro hRes
      simp [hDigit, hRes] at hNone
  · rintro ⟨⟨hWord, hDigit⟩, hRes⟩
    rw [fault?_of_isWord hWord]
    simp [hDigit, hRes]

/- Under `reject` a text without a fault is accepted as it stands. -/
theorem sanitize_reject_eq_ok_iff
    {text word : String} :
    sanitize .reject text = .ok word ↔
      word = text ∧ fault? text = none := by
  unfold sanitize
  cases fault? text with
  | some fault => simp
  | none => simp [eq_comm]

end Identifier

end ResourcePack

------------------------------------------------------------
-- Escapes
------------------------------------------------------------

namespace ResourcePack

namespace Identifier

/- The digits of hexadecimal numbers. -/
def isHexDigit
    (c : Char) : Bool :=
  c.isDigit || ('a' ≤ c && c ≤ 'f')

/-
  Whether a text does not begin with an escape, or with one of a byte
  from `c0` to `cf` and no underscore after it.
-/
def beginsTame : List Char → Bool
  | '_' :: high :: low :: rest =>
    !(isHexDigit high && isHexDigit low) ||
      (high = 'c' && rest.head? ≠ some '_')
  | _ => true

/-
  What looks like an escape in a reserved word, as `_ca` does before
  `st`, has a `c` in front and no underscore behind it.
-/
theorem escape_of_reserved
    {word : String}
    (hReserved : word ∈ reservedWords)
    {before rest : List Char}
    {high low : Char}
    (hWord : word.toList = before ++ '_' :: high :: low :: rest)
    (hHigh : isHexDigit high = true)
    (hLow : isHexDigit low = true) :
    high = 'c' ∧ rest.head? ≠ some '_' := by
  have hAll : ∀ word ∈ reservedWords,
      word.toList.tails.all beginsTame = true := by
    decide +kernel
  have hTail : '_' :: high :: low :: rest ∈ word.toList.tails :=
    (List.mem_tails _ _).mpr ⟨before, hWord.symm⟩
  have hTame := List.all_eq_true.mp (hAll word hReserved) _ hTail
  simpa [beginsTame, hHigh, hLow] using hTame

/- No reserved word begins with an underscore. -/
theorem head?_ne_of_reserved
    {word : String}
    (hReserved : word ∈ reservedWords) :
    word.toList.head? ≠ some '_' := by
  have hAll : ∀ word ∈ reservedWords, word.toList.head? ≠ some '_' := by
    decide +kernel
  exact hAll word hReserved

/- A byte that is not of ASCII is followed by another of its character. -/
theorem ne_nil_of_utf8EncodeChar
    {c : Char}
    {byte : UInt8}
    {bytes : List UInt8}
    (hBytes : String.utf8EncodeChar c = byte :: bytes)
    (hHigh : 128 ≤ byte.toNat) :
    bytes ≠ [] := by
  rintro rfl
  have hSingle : (String.utf8EncodeChar c).length = 1 := by
    rw [hBytes]
    rfl
  unfold String.utf8EncodeChar at hBytes hSingle
  by_cases hAscii : c.val.toNat ≤ 127
  · simp only [hAscii, if_true, List.cons.injEq, and_true] at hBytes
    rw [← hBytes, UInt8.toNat_ofNat_of_lt' (by
      have hSize : UInt8.size = 256 := rfl
      omega)] at hHigh
    omega
  · simp only [hAscii, if_false] at hSingle
    split at hSingle
    · cases hSingle
    · split at hSingle <;> cases hSingle

/- A character that identifiers do not have is written as its bytes. -/
theorem exists_escapeChar_eq
    {c : Char}
    (hOther : isIdentChar c = false) :
    ∃ byte bytes, String.utf8EncodeChar c = byte :: bytes ∧
      escapeChar c = escapeByte byte ++ bytes.flatMap escapeByte := by
  cases hBytes : String.utf8EncodeChar c with
  | nil => exact absurd hBytes String.utf8EncodeChar_ne_nil
  | cons byte bytes =>
    refine ⟨byte, bytes, rfl, ?_⟩
    rw [escapeChar, hOther, if_neg Bool.false_ne_true, hBytes,
      List.flatMap_cons]

/- A text that holds an escaped character is no reserved word. -/
theorem not_reserved_of_escape
    {c : Char}
    (hOther : isIdentChar c = false)
    {word : String}
    {before after : List Char}
    (hWord : word.toList = before ++ (escapeChar c ++ after)) :
    word ∉ reservedWords := by
  intro hReserved
  have hHex : ∀ n < 16, isHexDigit (Nat.digitChar n) = true := by
    decide
  have hTwelve : ∀ n < 16, Nat.digitChar n = 'c' → n = 12 := by
    decide
  rcases exists_escapeChar_eq hOther with ⟨byte, bytes, hBytes, hEscape⟩
  have hSize := byte.toNat_lt
  have hHigh : byte.toNat / 16 < 16 := by omega
  have hLow : byte.toNat % 16 < 16 := Nat.mod_lt _ (by decide)
  rw [hEscape, List.append_assoc] at hWord
  rcases escape_of_reserved hReserved hWord (hHex _ hHigh) (hHex _ hLow)
    with ⟨hFirst, hNext⟩
  -- a byte that begins with `c` is the first of two
  have hByte := hTwelve _ hHigh hFirst
  have hMore := ne_nil_of_utf8EncodeChar hBytes (by omega)
  cases bytes with
  | nil => exact hMore rfl
  | cons next bytes => exact hNext rfl

/-
  What is escaped begins with an underscore, or it is the text with
  each character escaped and nothing in front.
-/
theorem escaped_cases
    (text : String) :
    (∃ rest, (escaped text).toList = '_' :: rest) ∨
      isReserved text = false ∧ startsWithDigit text.toList = false ∧
        (escaped text).toList = text.toList.flatMap escapeChar := by
  unfold escaped
  cases isReserved text with
  | true =>
    refine Or.inl ⟨text.toList, ?_⟩
    rw [if_pos rfl, String.toList_append]
    rfl
  | false =>
    rw [if_neg Bool.false_ne_true, String.toList_ofList]
    cases startsWithDigit text.toList with
    | true => exact Or.inl ⟨_, rfl⟩
    | false => exact Or.inr ⟨rfl, rfl, rfl⟩

theorem startsWithDigit_escaped
    (text : String) :
    startsWithDigit (escaped text).toList = false := by
  rcases escaped_cases text with ⟨rest, hMark⟩ | ⟨-, hDigit, hChars⟩
  · rw [hMark]
    rfl
  · rw [hChars]
    cases hText : text.toList with
    | nil => rfl
    | cons c rest =>
      rw [hText] at hDigit
      rw [List.flatMap_cons]
      cases hIdent : isIdentChar c with
      | true =>
        rw [escapeChar, if_pos hIdent]
        exact hDigit
      | false =>
        rcases exists_escapeChar_eq hIdent with ⟨byte, bytes, -, hEscape⟩
        rw [hEscape]
        rfl

/- What is escaped is no reserved word. -/
theorem escaped_not_reserved
    (text : String) :
    escaped text ∉ reservedWords := by
  rcases escaped_cases text with ⟨rest, hMark⟩ | ⟨hFree, -, hChars⟩
  · intro hReserved
    apply head?_ne_of_reserved hReserved
    rw [hMark]
    rfl
  · by_cases hAll : ∀ c ∈ text.toList, isIdentChar c = true
    · rw [flatMap_escapeChar hAll, String.toList_inj] at hChars
      rw [hChars]
      intro hReserved
      rw [isReserved, List.contains_iff_mem.mpr hReserved] at hFree
      cases hFree
    · push Not at hAll
      rcases hAll with ⟨c, hMem, hNot⟩
      rcases List.append_of_mem hMem with ⟨before, after, hText⟩
      rw [hText, List.flatMap_append, List.flatMap_cons] at hChars
      exact not_reserved_of_escape (Bool.eq_false_iff.mpr hNot) hChars

theorem fault?_escaped
    {text : String}
    (hNe : text ≠ "") :
    fault? (escaped text) = none := by
  rw [fault?_eq_none_iff, isName_iff]
  exact ⟨⟨isWord_escaped hNe, startsWithDigit_escaped text⟩,
    escaped_not_reserved text⟩

end Identifier

end ResourcePack

------------------------------------------------------------
-- Policies
------------------------------------------------------------

namespace ResourcePack

namespace Identifier

/- What comes out under `escape` is accepted under `reject`. -/
theorem sanitize_reject_of_escape
    {text word : String}
    (hEscape : sanitize .escape text = .ok word) :
    sanitize .reject word = .ok word := by
  have hNe : text ≠ "" := by
    rintro rfl
    cases hEscape
  rw [sanitize_escape_eq_ok hNe, Except.ok.injEq] at hEscape
  rw [sanitize_reject_eq_ok_iff, ← hEscape]
  exact ⟨rfl, fault?_escaped hNe⟩

/- What comes out of `sanitize` is an identifier and not reserved. -/
theorem fault?_of_sanitize
    {policy : Policy}
    {raw text : String}
    (hSanitize : sanitize policy raw = .ok text) :
    fault? text = none := by
  cases policy with
  | reject =>
    rcases sanitize_reject_eq_ok_iff.mp hSanitize with ⟨hSame, hNone⟩
    exact hSame ▸ hNone
  | escape =>
    exact (sanitize_reject_eq_ok_iff.mp
      (sanitize_reject_of_escape hSanitize)).2

/-
  Under `reject` the texts that are accepted are the names that are
  not reserved, each as it stands.  Under `escape` every text but the
  empty one comes out as such a name, and those names as they stand,
  so that they are exactly what comes out.
-/
theorem sanitize_image
    (text : String) :
    (∀ word, sanitize .reject text = .ok word ↔
      word = text ∧ IsName text ∧ text ∉ reservedWords) ∧
    (text ≠ "" → ∃ word, sanitize .escape text = .ok word ∧
      sanitize .reject word = .ok word) ∧
    (∀ word, sanitize .reject text = .ok word →
      sanitize .escape text = .ok text) ∧
    (∀ word, sanitize .escape text = .ok word →
      sanitize .escape word = .ok word) ∧
    ((∃ raw, sanitize .escape raw = .ok text) ↔
      ∃ word, sanitize .reject text = .ok word) := by
  refine ⟨?_, ?_, ?_, ?_, ?_, ?_⟩
  · intro word
    rw [sanitize_reject_eq_ok_iff, fault?_eq_none_iff]
  · intro hNe
    have hEscape := sanitize_escape_eq_ok hNe
    exact ⟨_, hEscape, sanitize_reject_of_escape hEscape⟩
  · intro word hReject
    rw [(sanitize_reject_eq_ok_iff.mp hReject).1] at hReject
    exact sanitize_escape_of_reject hReject
  · intro word hEscape
    exact sanitize_escape_of_reject (sanitize_reject_of_escape hEscape)
  · rintro ⟨raw, hEscape⟩
    exact ⟨text, sanitize_reject_of_escape hEscape⟩
  · rintro ⟨word, hReject⟩
    rw [(sanitize_reject_eq_ok_iff.mp hReject).1] at hReject
    exact ⟨text, sanitize_escape_of_reject hReject⟩

/- A character with a byte `ca`, in front of the end of a keyword. -/
example :
    escaped "const\u0283st" = "const_ca_83st" := by
  decide +kernel

end Identifier

end ResourcePack
