import Mathlib.Data.List.TakeWhile
import ResourcePack.Config.Decode
import ResourcePack.Proofs.Text.LowerCase
import ResourcePack.Settings.Environment

/-
  Texts of the environment that are read as scalars, and others.

  Key definitions include:
    * `ResourcePack.Environment.Plain`
    * `ResourcePack.Environment.arrival`
    * `ResourcePack.Environment.isScalarChar`

  Main declarations:
    * `ResourcePack.Environment.toText?_value`
    * `ResourcePack.Environment.plain_of_mem`

  A value is read as a truth value or a number before it is known
  which field asks for it.  What is neither stays a text, and a text
  with a character that no scalar is written with is neither.
-/

------------------------------------------------------------
-- Characters of Numbers
------------------------------------------------------------

namespace ResourcePack

namespace Environment

/- The characters that numbers are written with. -/
def isScalarChar
    (c : Char) : Bool :=
  c.isAlphanum || c = '+' || c = '-' || c = '.'

theorem isAlpha_of_toLower
    {c : Char}
    (hLower : c.toLower.isAlpha = true) :
    c.isAlpha = true := by
  unfold Char.toLower at hLower
  split at hLower
  · next hUpper =>
    have hIsUpper : c.isUpper = true := decide_eq_true hUpper
    exact Bool.or_eq_true_iff.mpr (.inl hIsUpper)
  · exact hLower

theorem isScalarChar_of_isDigit
    {c : Char}
    (hDigit : c.isDigit = true) :
    isScalarChar c = true := by
  simp [isScalarChar, Char.isAlphanum, hDigit]

theorem isScalarChar_of_toLower
    {c : Char}
    (hLower : c.toLower.isAlpha = true) :
    isScalarChar c = true := by
  simp [isScalarChar, Char.isAlphanum, isAlpha_of_toLower hLower]

end Environment

namespace Decimal

open Environment

theorem isDigit_of_digitsFrom
    {cs : List Char}
    {value n : Nat}
    (hRead : digitsFrom value cs = some n) :
    ∀ c ∈ cs, c.isDigit = true := by
  induction cs generalizing value with
  | nil =>
    intro c hMem
    cases hMem
  | cons c rest ih =>
    by_cases hDigit : c.isDigit = true
    · rw [digitsFrom, if_pos hDigit] at hRead
      exact List.forall_mem_cons.mpr ⟨hDigit, ih hRead⟩
    · rw [digitsFrom, if_neg hDigit] at hRead
      cases hRead

theorem isDigit_of_digits?
    {cs : List Char}
    {n : Nat}
    (hRead : digits? cs = some n) :
    ∀ c ∈ cs, c.isDigit = true := by
  cases cs with
  | nil => cases hRead
  | cons c rest => exact isDigit_of_digitsFrom hRead

/- A number with a sign is a sign and digits. -/
theorem isScalarChar_of_integer?
    {cs : List Char}
    {n : Int}
    (hRead : integer? cs = some n) :
    ∀ c ∈ cs, isScalarChar c = true := by
  have hDigits : ∀ {ds : List Char} {f : Nat → Int},
      (digits? ds).map f = some n → ∀ c ∈ ds, isScalarChar c = true := by
    intro ds f hSome c hMem
    rcases Option.map_eq_some_iff.mp hSome with ⟨k, hValue, -⟩
    exact isScalarChar_of_isDigit (isDigit_of_digits? hValue c hMem)
  unfold integer? at hRead
  split at hRead
  · exact List.forall_mem_cons.mpr ⟨by decide, hDigits hRead⟩
  · exact List.forall_mem_cons.mpr ⟨by decide, hDigits hRead⟩
  · exact hDigits hRead

/- So is one of limited size. -/
theorem isScalarChar_of_int64?
    {cs : List Char}
    {n : Int}
    (hRead : int64? cs = some n) :
    ∀ c ∈ cs, isScalarChar c = true :=
  isScalarChar_of_integer? (Option.filter_eq_some_iff.mp hRead).1

end Decimal

namespace Double

open Environment

/- The words for what is no number or has no bound are of letters. -/
theorem isScalarChar_of_word?
    {negative : Bool}
    {cs : List Char}
    {x : Double}
    (hRead : word? negative cs = some x) :
    ∀ c ∈ cs, isScalarChar c = true := by
  have hLetters : ∀ word : String, word.toList.all Char.isAlpha = true →
      String.ofList (cs.map Char.toLower) = word →
      ∀ c ∈ cs, isScalarChar c = true := by
    intro word hWord hEq c hMem
    apply isScalarChar_of_toLower
    apply List.all_eq_true.mp hWord
    rw [← hEq, String.toList_ofList]
    exact List.mem_map_of_mem hMem
  unfold word? at hRead
  simp only [Bool.or_eq_true, decide_eq_true_eq] at hRead
  split at hRead
  · next hNan => exact hLetters "nan" rfl hNan
  · split at hRead
    · next hInf =>
      rcases hInf with hInf | hInfinity
      · exact hLetters "inf" rfl hInf
      · exact hLetters "infinity" rfl hInfinity
    · cases hRead

/- An exponent is a letter and an integer. -/
theorem isScalarChar_of_exponent?
    {cs : List Char}
    {n : Int}
    (hRead : exponent? cs = some n) :
    ∀ c ∈ cs, isScalarChar c = true := by
  cases cs with
  | nil =>
    intro c hMem
    cases hMem
  | cons c rest =>
    unfold exponent? at hRead
    simp only [Bool.or_eq_true, decide_eq_true_eq] at hRead
    split at hRead
    · next hLetter =>
      refine List.forall_mem_cons.mpr
        ⟨?_, Decimal.isScalarChar_of_integer? hRead⟩
      rcases hLetter with rfl | rfl <;> decide
    · cases hRead

/- Digits at the front and the rest make up a text. -/
theorem forall_mem_of_takeDigits
    {cs : List Char}
    (hRest : ∀ c ∈ (takeDigits cs).2, isScalarChar c = true) :
    ∀ c ∈ cs, isScalarChar c = true := by
  rw [← List.takeWhile_append_dropWhile (p := Char.isDigit) (l := cs)]
  refine List.forall_mem_append.mpr ⟨?_, hRest⟩
  intro c hMem
  exact isScalarChar_of_isDigit (List.mem_takeWhile_imp hMem)

/- A number without a sign is digits, a point and an exponent. -/
theorem isScalarChar_of_unsigned?
    {negative : Bool}
    {cs : List Char}
    {x : Double}
    (hRead : unsigned? negative cs = some x) :
    ∀ c ∈ cs, isScalarChar c = true := by
  apply forall_mem_of_takeDigits
  unfold unsigned? at hRead
  generalize takeDigits cs = parts at hRead ⊢
  rcases parts with ⟨whole, rest⟩
  simp only at hRead ⊢
  split at hRead
  · next hExponent =>
    -- a point at the front of the rest has digits behind it
    split at hExponent
    · next after =>
      refine List.forall_mem_cons.mpr ⟨by decide, ?_⟩
      exact forall_mem_of_takeDigits (isScalarChar_of_exponent? hExponent)
    · exact isScalarChar_of_exponent? hExponent
  · cases hRead

/- A number is written with the characters of numbers. -/
theorem isScalarChar_of_ofText?
    {cs : List Char}
    {x : Double}
    (hRead : ofText? cs = some x) :
    ∀ c ∈ cs, isScalarChar c = true := by
  have hEither : ∀ {negative : Bool} {ds : List Char},
      (word? negative ds <|> unsigned? negative ds) = some x →
      ∀ c ∈ ds, isScalarChar c = true := by
    intro negative ds hSome
    cases hWord : word? negative ds with
    | some y => exact isScalarChar_of_word? hWord
    | none =>
      rw [hWord] at hSome
      exact isScalarChar_of_unsigned? hSome
  unfold ofText? at hRead
  split at hRead
  · exact List.forall_mem_cons.mpr ⟨by decide, hEither hRead⟩
  · exact List.forall_mem_cons.mpr ⟨by decide, hEither hRead⟩
  · exact hEither hRead

end Double

end ResourcePack

------------------------------------------------------------
-- Plain Texts
------------------------------------------------------------

namespace ResourcePack

namespace Environment

open Settings

/- A text that is read neither as a truth value nor as a number. -/
structure Plain
    (text : String) : Prop where
  bool : bool? text = none
  int : Decimal.int64? text.toList = none
  real : Double.ofText? text.toList = none

instance
    (text : String) :
    Decidable (Plain text) :=
  decidable_of_iff
    (bool? text = none ∧ Decimal.int64? text.toList = none ∧
      Double.ofText? text.toList = none)
    ⟨fun h => ⟨h.1, h.2.1, h.2.2⟩, fun h => ⟨h.bool, h.int, h.real⟩⟩

/- A truth value is one of two words, in letters of any case. -/
theorem lowerCase_of_bool?
    {text : String}
    {b : Bool}
    (hRead : bool? text = some b) :
    Text.lowerCase text = "true" ∨ Text.lowerCase text = "false" := by
  unfold bool? at hRead
  split at hRead
  · next hTrue => exact .inl hTrue
  · next hFalse => exact .inr hFalse
  · cases hRead

/-
  A text is plain if it has a character in it that is not used for
  numbers and has no other lower-case form.
-/
theorem plain_of_mem
    {mark : Char}
    (hMark : isScalarChar mark = false)
    (hKept : Text.lowerChar mark = [mark])
    {text : String}
    (hMem : mark ∈ text.toList) :
    Plain text where
  bool := by
    rw [Option.eq_none_iff_forall_ne_some]
    intro b hRead
    have hLower := Text.mem_lowerCase hKept hMem
    have hLetters : ∀ word : String, word.toList.all isScalarChar = true →
        Text.lowerCase text = word → False := by
      intro word hWord hEq
      have hScalar := List.all_eq_true.mp hWord mark (hEq ▸ hLower)
      exact Bool.false_ne_true (hMark ▸ hScalar)
    rcases lowerCase_of_bool? hRead with hTrue | hFalse
    · exact hLetters "true" rfl hTrue
    · exact hLetters "false" rfl hFalse
  int := by
    rw [Option.eq_none_iff_forall_ne_some]
    intro n hRead
    have hScalar := Decimal.isScalarChar_of_int64? hRead mark hMem
    exact Bool.false_ne_true (hMark ▸ hScalar)
  real := by
    rw [Option.eq_none_iff_forall_ne_some]
    intro x hRead
    have hScalar := Double.isScalarChar_of_ofText? hRead mark hMem
    exact Bool.false_ne_true (hMark ▸ hScalar)

/- The text that reaches a field which asks for one. -/
def arrival
    (text : String) : String :=
  match bool? text, Decimal.int64? text.toList, Double.ofText? text.toList with
  | some b, _, _ => if b then "true" else "false"
  | none, some n, _ => toString n
  | none, none, some x => x.text
  | none, none, none => text

/- A plain text arrives as it was written. -/
theorem arrival_of_plain
    {text : String}
    (hPlain : Plain text) :
    arrival text = text := by
  unfold arrival
  rw [hPlain.bool, hPlain.int, hPlain.real]

/- The value of a key that holds no list is converted to that text. -/
theorem toText?_value
    {key : String}
    (hKey : key ∉ listKeys)
    (text : String) :
    (value key text).toText? = some (arrival text) := by
  have hList : listKeys.contains key = false := by
    simpa using hKey
  unfold value arrival
  cases bool? text with
  | some b => rfl
  | none =>
    cases Decimal.int64? text.toList with
    | some n => rfl
    | none =>
      cases Double.ofText? text.toList with
      | some x => rfl
      | none =>
        simp only [hList]
        rfl

/- The value of a key that holds a list is cut at the commas. -/
theorem value_of_plain
    {key : String}
    (hKey : key ∈ listKeys)
    {text : String}
    (hPlain : Plain text) :
    value key text = .list ((Text.splitOn ',' text).map .text) := by
  have hList : listKeys.contains key = true := by
    simpa using hKey
  unfold value
  rw [hPlain.bool, hPlain.int, hPlain.real]
  exact if_pos hList

theorem value_ne_table
    (key text : String)
    (fields : List (String × Value)) :
    value key text ≠ .table fields := by
  unfold value
  split
  · nofun
  · nofun
  · nofun
  · split <;> nofun

end Environment

end ResourcePack
