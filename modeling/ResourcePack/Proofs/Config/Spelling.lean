import ResourcePack.Proofs.Config.Layers
import ResourcePack.Proofs.Identifier.Words
import ResourcePack.Proofs.Settings.Scalars
import ResourcePack.Proofs.Text.Reading

/-
  What the text of a variable spells for a field.

  Key definitions include:
    * `ResourcePack.Environment.wordOf?`
    * `ResourcePack.Config.Kind.spelled?`

  Main declarations:
    * `ResourcePack.Environment.plain_of_lowerCase`
    * `ResourcePack.Environment.int64?_of_wordOf?`
    * `ResourcePack.Config.own_value`

  Without regard to how variables are read, a text spells a value of
  the type of a field: a number is spelled in digits and a choice by
  its name in letters of any case, and a text or a list by whatever
  is neither a truth value nor a number.  The environment reads such
  a text as a setting with that value.
-/

------------------------------------------------------------
-- Names
------------------------------------------------------------

namespace ResourcePack

namespace Environment

theorem not_isDigit_of_isAlpha
    {c : Char}
    (hAlpha : c.isAlpha = true) :
    c.isDigit = false := by
  have hAll : ∀ n < 128, (Char.ofNat n).isAlpha = true →
      (Char.ofNat n).isDigit = false := by
    decide +kernel
  have hAlphanum : c.isAlphanum = true :=
    Bool.or_eq_true_iff.mpr (.inl hAlpha)
  exact Text.of_forall_lt (fun c => c.isAlpha = true → c.isDigit = false)
    hAll (Identifier.toNat_lt_of_isAlphanum hAlphanum) hAlpha

/- What begins with a letter is no whole number. -/
theorem int64?_of_isAlpha
    {c : Char}
    (hAlpha : c.isAlpha = true)
    (rest : List Char) :
    Decimal.int64? (c :: rest) = none := by
  have hDigits : Decimal.digits? (c :: rest) = none := by
    rw [Decimal.digits?, Decimal.digitsFrom, not_isDigit_of_isAlpha hAlpha]
    · rfl
    · exact List.cons_ne_nil c rest
  have hInteger : Decimal.integer? (c :: rest) = none := by
    unfold Decimal.integer?
    split
    · next hPlus =>
      cases hPlus
      cases hAlpha
    · next hMinus =>
      cases hMinus
      cases hAlpha
    · rw [hDigits]
      rfl
  rw [Decimal.int64?, hInteger]
  rfl

/- What begins with a letter is a number only as one of three words. -/
theorem ofText?_of_isAlpha
    {c : Char}
    (hAlpha : c.isAlpha = true)
    (rest : List Char) :
    Double.ofText? (c :: rest) = Double.word? false (c :: rest) := by
  have hTake : Double.takeDigits (c :: rest) = ([], c :: rest) := by
    simp [Double.takeDigits, not_isDigit_of_isAlpha hAlpha]
  have hPoint : c ≠ '.' := by
    rintro rfl
    cases hAlpha
  have hUnsigned : Double.unsigned? false (c :: rest) = none := by
    unfold Double.unsigned?
    rw [hTake]
    simp [hPoint, Decimal.digits?]
  unfold Double.ofText?
  split
  · next hPlus =>
    cases hPlus
    cases hAlpha
  · next hMinus =>
    cases hMinus
    cases hAlpha
  · rw [hUnsigned]
    cases Double.word? false (c :: rest) <;> rfl

/-
  If a text that begins like a number has a name for its lower-case
  form, it is that name in other letters.
-/
theorem exists_letter
    {text name : String}
    (hName : name.toList.head?.any Char.isAlpha = true)
    (hLower : Text.lowerCase text = name)
    (hScalar : ∀ c ∈ text.toList, isScalarChar c = true) :
    ∃ c rest, text.toList = c :: rest ∧ c.isAlpha = true ∧
      (c :: rest).map Char.toLower = name.toList := by
  have hAscii : ∀ c ∈ text.toList, c.toNat < 128 := by
    intro c hMem
    have hChar := hScalar c hMem
    simp only [isScalarChar, Bool.or_eq_true, decide_eq_true_eq] at hChar
    rcases hChar with ((hAlphanum | rfl) | rfl) | rfl
    · exact Identifier.toNat_lt_of_isAlphanum hAlphanum
    all_goals decide
  rw [Text.lowerCase_of_ascii hAscii] at hLower
  have hMap : text.toList.map Char.toLower = name.toList := by
    rw [← hLower, String.toList_ofList]
  cases hText : text.toList with
  | nil =>
    rw [hText, List.map_nil] at hMap
    rw [← hMap] at hName
    cases hName
  | cons c rest =>
    rw [hText] at hMap
    refine ⟨c, rest, rfl, ?_, hMap⟩
    rw [← hMap] at hName
    have hLetter : c.toLower.isAlpha = true := by simpa using hName
    exact isAlpha_of_toLower hLetter

/- The name of an order or a policy is plain in all letters. -/
theorem plain_of_lowerCase
    {text name : String}
    (hName : name ∈ ["insertion", "sorted", "reject", "escape"])
    (hLower : Text.lowerCase text = name) :
    Plain text := by
  have hLetters : ∀ name ∈ ["insertion", "sorted", "reject", "escape"],
      name.toList.head?.any Char.isAlpha = true := by
    decide
  have hFirst := hLetters name hName
  constructor
  · rw [Option.eq_none_iff_forall_ne_some]
    intro b hBool
    rcases lowerCase_of_bool? hBool with hTrue | hFalse
    · rw [← hLower, hTrue] at hName
      revert hName
      decide
    · rw [← hLower, hFalse] at hName
      revert hName
      decide
  · rw [Option.eq_none_iff_forall_ne_some]
    intro n hRead
    rcases exists_letter hFirst hLower
      (Decimal.isScalarChar_of_int64? hRead) with
      ⟨c, rest, hText, hAlpha, -⟩
    rw [hText, int64?_of_isAlpha hAlpha] at hRead
    cases hRead
  · rw [Option.eq_none_iff_forall_ne_some]
    intro x hRead
    rcases exists_letter hFirst hLower
      (Double.isScalarChar_of_ofText? hRead) with
      ⟨c, rest, hText, hAlpha, hMap⟩
    rw [hText, ofText?_of_isAlpha hAlpha, Double.word?, hMap,
      String.ofList_toList] at hRead
    revert hRead
    have hWords : ∀ name ∈ ["insertion", "sorted", "reject", "escape"],
        name ≠ "nan" ∧ name ≠ "inf" ∧ name ≠ "infinity" := by
      decide
    simp [hWords name hName]

end Environment

end ResourcePack

------------------------------------------------------------
-- Numbers
------------------------------------------------------------

namespace ResourcePack

namespace Environment

/- The number that digits stand for. -/
def numeral?
    (digits : List Char) : Option Nat :=
  if digits ≠ [] ∧ digits.all Char.isDigit then
    some (Nat.ofDigitChars 10 digits 0)
  else
    none

/- A number below 2^32, which may have a sign; no other than 0 is negative. -/
def wordOf?
    (text : String) : Option Nat :=
  let value :=
    match text.toList with
    | '+' :: digits => numeral? digits
    | '-' :: digits => (numeral? digits).filter (· = 0)
    | digits => numeral? digits
  value.filter (· < 4294967296)

/- A number in digits is read as that number. -/
theorem digits?_of_numeral?
    {cs : List Char}
    {n : Nat}
    (hNumeral : numeral? cs = some n) :
    Decimal.digits? cs = some n := by
  unfold numeral? at hNumeral
  split at hNumeral
  · next hDigits =>
    have hFrom : ∀ {cs : List Char} (value : Nat), cs.all Char.isDigit = true →
        Decimal.digitsFrom value cs = some (Nat.ofDigitChars 10 cs value) := by
      intro cs value hAll
      induction cs generalizing value with
      | nil => rfl
      | cons c rest ih =>
        rw [List.all_cons, Bool.and_eq_true] at hAll
        rw [Decimal.digitsFrom, if_pos hAll.1, ih _ hAll.2]
        rfl
    rw [← hNumeral, ← hFrom 0 hDigits.2]
    cases cs with
    | nil => exact absurd rfl hDigits.1
    | cons c rest => rfl
  · cases hNumeral

/- So is one with a sign, and it has 32 bits. -/
theorem int64?_of_wordOf?
    {text : String}
    {n : Nat}
    (hWord : wordOf? text = some n) :
    Decimal.int64? text.toList = some (n : Int) ∧ n < 4294967296 := by
  unfold wordOf? at hWord
  rcases Option.filter_eq_some_iff.mp hWord with ⟨hValue, hSmall⟩
  have hBound : n < 4294967296 := of_decide_eq_true hSmall
  have hFits : Decimal.isInt64 (n : Int) = true := by
    simp [Decimal.isInt64]
    omega
  have hInteger : Decimal.integer? text.toList = some (n : Int) := by
    split at hValue
    · next digits hText =>
      rw [hText]
      simp only [Decimal.integer?, digits?_of_numeral? hValue]
      rfl
    · next digits hText =>
      rcases Option.filter_eq_some_iff.mp hValue with ⟨hNumeral, hZero⟩
      have hZero : n = 0 := of_decide_eq_true hZero
      rw [hText]
      simp only [Decimal.integer?, digits?_of_numeral? hNumeral, hZero]
      rfl
    · next hPlus hMinus =>
      unfold Decimal.integer?
      split
      · next hText => exact absurd hText (hPlus _)
      · next hText => exact absurd hText (hMinus _)
      · rw [digits?_of_numeral? hValue]
        rfl
  refine ⟨?_, hBound⟩
  rw [Decimal.int64?, hInteger]
  exact Option.filter_eq_some_iff.mpr ⟨rfl, hFits⟩

theorem bool?_of_int64?
    {text : String}
    {n : Int}
    (hNumber : Decimal.int64? text.toList = some n) :
    bool? text = none := by
  rw [Option.eq_none_iff_forall_ne_some]
  intro b hBool
  have hNot : ∀ name : String, name.toList.head?.any Char.isAlpha = true →
      Text.lowerCase text ≠ name := by
    intro name hFirst hLower
    rcases exists_letter hFirst hLower
      (Decimal.isScalarChar_of_int64? hNumber) with
      ⟨c, rest, hText, hAlpha, -⟩
    rw [hText, int64?_of_isAlpha hAlpha] at hNumber
    cases hNumber
  rcases lowerCase_of_bool? hBool with hTrue | hFalse
  · exact hNot "true" (by decide) hTrue
  · exact hNot "false" (by decide) hFalse

theorem value_of_int64?
    {key text : String}
    {n : Int}
    (hNumber : Decimal.int64? text.toList = some n) :
    value key text = .int n := by
  unfold value
  rw [bool?_of_int64? hNumber, hNumber]

/- A plain text stays a text where no list is asked for. -/
theorem value_of_plain_text
    {key text : String}
    (hKey : key ∉ listKeys)
    (hPlain : Plain text) :
    value key text = .text text := by
  have hList : listKeys.contains key = false := by
    simpa using hKey
  unfold value
  rw [hPlain.bool, hPlain.int, hPlain.real]
  exact if_neg (Bool.eq_false_iff.mp hList)

end Environment

end ResourcePack

------------------------------------------------------------
-- Fields
------------------------------------------------------------

namespace ResourcePack

namespace Config

open Settings (Value)
open Environment (Plain value listKeys)

/- The truth value of a word, in letters of any case. -/
def Kind.flagNamed?
    (name : String) : Option Bool :=
  match Text.lowerCase name with
  | "true" => some true
  | "false" => some false
  | _ => none

/- The value of the type of a field that a text spells. -/
def Kind.spelled? : (k : Kind) → String → Option k.Carrier
  | text, s => if Plain s then some s else none
  | optionText, s => if Plain s then some (some s) else none
  | texts, s => if Plain s then some (Text.splitOn ',' s) else none
  | word, s => Environment.wordOf? s
  | order, s => orderNamed? s
  | policy, s => policyNamed? s
  | flag, s => flagNamed? s

/- A number of 32 bits is the value of a setting with that number. -/
theorem Kind.own_natCast
    {n : Nat}
    (hBound : n < 4294967296) :
    Kind.own .word (.int n) = some n := by
  simp only [Kind.own]
  rw [if_pos ⟨Int.natCast_nonneg n, Int.ofNat_lt.mpr hBound⟩]
  rfl

theorem plain_of_orderNamed?
    {text : String}
    {a : Order}
    (hNamed : Kind.orderNamed? text = some a) :
    Plain text := by
  unfold Kind.orderNamed? at hNamed
  split at hNamed
  · next hLower => exact Environment.plain_of_lowerCase (by decide) hLower
  · next hLower => exact Environment.plain_of_lowerCase (by decide) hLower
  · cases hNamed

theorem plain_of_policyNamed?
    {text : String}
    {a : Policy}
    (hNamed : Kind.policyNamed? text = some a) :
    Plain text := by
  unfold Kind.policyNamed? at hNamed
  split at hNamed
  · next hLower => exact Environment.plain_of_lowerCase (by decide) hLower
  · next hLower => exact Environment.plain_of_lowerCase (by decide) hLower
  · cases hNamed

/-
  A text that spells a value of the type of a field is read from the
  environment as a setting with that value.
-/
theorem own_value
    {k : Kind}
    {key text : String}
    (hKey : key ∈ listKeys ↔ k = .texts)
    {a : k.Carrier}
    (hSpelled : k.spelled? text = some a) :
    k.own (value key text) = some a := by
  cases k with
  | text =>
    have hNot : key ∉ listKeys := mt hKey.mp nofun
    rcases Option.ite_none_right_eq_some.mp hSpelled with ⟨hPlain, hSame⟩
    rw [Environment.value_of_plain_text hNot hPlain]
    exact hSame
  | optionText =>
    have hNot : key ∉ listKeys := mt hKey.mp nofun
    rcases Option.ite_none_right_eq_some.mp hSpelled with ⟨hPlain, hSame⟩
    rw [Environment.value_of_plain_text hNot hPlain]
    exact hSame
  | texts =>
    rcases Option.ite_none_right_eq_some.mp hSpelled with ⟨hPlain, hSame⟩
    rw [Environment.value_of_plain (hKey.mpr rfl) hPlain, ← hSame]
    exact mapM_map_eq_some Value.text Kind.ownText? (fun _ => rfl) _
  | word =>
    rcases Environment.int64?_of_wordOf? hSpelled with ⟨hNumber, hBound⟩
    rw [Environment.value_of_int64? hNumber]
    exact Kind.own_natCast hBound
  | order =>
    have hNot : key ∉ listKeys := mt hKey.mp nofun
    have hPlain := plain_of_orderNamed? hSpelled
    rw [Environment.value_of_plain_text hNot hPlain]
    exact hSpelled
  | policy =>
    have hNot : key ∉ listKeys := mt hKey.mp nofun
    have hPlain := plain_of_policyNamed? hSpelled
    rw [Environment.value_of_plain_text hNot hPlain]
    exact hSpelled
  | flag =>
    have hBool : Environment.bool? text = some a := hSpelled
    unfold value
    rw [hBool]
    rfl

end Config

end ResourcePack
