import Mathlib.Data.List.Basic
import Mathlib.Data.List.TakeWhile
import Mathlib.Tactic.ByContra
import Mathlib.Tactic.SplitIfs
import ResourcePack.Proofs.Json.Reader

/-
  Strings and numbers read back from their JSON text.

  Key definitions include:
    * `ResourcePack.Json.signText`
    * `ResourcePack.Json.padded`
    * `ResourcePack.Json.wholeDigits`
    * `ResourcePack.Json.placeDigits`

  Main declarations:
    * `ResourcePack.Json.string?_escapeChar`
    * `ResourcePack.Json.string?_flatMap`
    * `ResourcePack.Json.bare?_toString`
    * `ResourcePack.Json.bare?_fractionText`

  Each way of writing a character has one equation for what is read
  from it, and a string is read by induction on its characters.  A
  number is a sign and digits, with a point among them if it is a
  decimal; its digits have no zero in front that could be left out.
-/

------------------------------------------------------------
-- Strings
------------------------------------------------------------

namespace ResourcePack

namespace Json

/- Two hexadecimal digits behind two zeros give their value back. -/
theorem hexFrom_digitChar
    {n : Nat}
    (hSmall : n < 32) :
    Toml.hexFrom 0 ['0', '0', Nat.digitChar (n / 16), Nat.digitChar (n % 16)] =
      some n := by
  have hAll : ∀ n < 32, Toml.hexFrom 0
      ['0', '0', Nat.digitChar (n / 16), Nat.digitChar (n % 16)] = some n := by
    decide
  exact hAll n hSmall

theorem string?_control
    {c : Char}
    (hSmall : c.toNat < 32)
    (rest : List Char) :
    string? none ('\\' :: 'u' :: '0' :: '0' :: Nat.digitChar (c.toNat / 16) ::
      Nat.digitChar (c.toNat % 16) :: rest) = Toml.put c (string? none rest) := by
  have hHigh : isHighHalf c.toNat = false := by
    unfold isHighHalf
    simp only [Bool.and_eq_false_iff, decide_eq_false_iff_not]
    omega
  have hLow : isLowHalf c.toNat = false := by
    unfold isLowHalf
    simp only [Bool.and_eq_false_iff, decide_eq_false_iff_not]
    omega
  have hUnit : unit? none c.toNat = some (.inl c) := by
    rw [unit?, hHigh, hLow, Char.ofNat_toNat]
    rfl
  rw [string?, hexFrom_digitChar hSmall, Option.bind_some, hUnit]

theorem string?_plain
    {c : Char}
    (hQuote : c ≠ '"')
    (hBackslash : c ≠ '\\')
    (hLarge : ¬ c.toNat < 32)
    (rest : List Char) :
    string? none (c :: rest) = Toml.put c (string? none rest) := by
  rw [string?]
  · simp [hQuote, hBackslash, hLarge]
  · intro _ _ _ _ _ hEq
    exact absurd hEq hBackslash
  · intro _ _ hEq
    exact absurd hEq hBackslash

/- A character is read back from the way that it is written. -/
theorem string?_escapeChar
    (c : Char)
    (rest : List Char) :
    string? none (escapeChar c ++ rest) = Toml.put c (string? none rest) := by
  unfold escapeChar
  split_ifs with hQuote hBackslash hFeed hReturn hTab hBack hForm hControl
  · rw [hQuote]; rfl
  · rw [hBackslash]; rfl
  · rw [hFeed]; rfl
  · rw [hReturn]; rfl
  · rw [hTab]; rfl
  · rw [← Char.ofNat_toNat c, hBack]; rfl
  · rw [← Char.ofNat_toNat c, hForm]; rfl
  · exact string?_control hControl rest
  · exact string?_plain hQuote hBackslash hControl rest

/- A text is read back from its string, and what follows is left. -/
theorem string?_flatMap
    (chars rest : List Char) :
    string? none (chars.flatMap escapeChar ++ '"' :: rest) =
      some (chars, rest) := by
  induction chars with
  | nil => rfl
  | cons c chars ih =>
    rw [List.flatMap_cons, List.append_assoc, string?_escapeChar, ih]
    rfl

end Json

end ResourcePack

------------------------------------------------------------
-- Runs of Characters
------------------------------------------------------------

namespace ResourcePack

namespace Json

/-
  A run of characters of one kind ends in front of a character of
  another kind, and at the end of a text.
-/
theorem span_run
    {kind : Char → Bool}
    {run rest : List Char}
    (hRun : ∀ c ∈ run, kind c = true)
    (hRest : ∀ c ∈ rest.head?, kind c = false) :
    (run ++ rest).takeWhile kind = run ∧
      (run ++ rest).dropWhile kind = rest := by
  rw [List.takeWhile_append_of_pos hRun, List.dropWhile_append_of_pos hRun]
  cases rest with
  | nil => simp
  | cons c rest =>
    have hOther : ¬ kind c = true := by simpa using hRest c rfl
    rw [List.takeWhile_cons_of_neg hOther, List.dropWhile_cons_of_neg hOther,
      List.append_nil]
    exact ⟨rfl, rfl⟩

end Json

end ResourcePack

------------------------------------------------------------
-- Numbers
------------------------------------------------------------

namespace ResourcePack

namespace Json

/- The digits of a positive number do not begin with a zero. -/
theorem head?_toDigits
    {n : Nat}
    (hPos : 0 < n) :
    (Nat.toDigits 10 n).head? ≠ some '0' := by
  induction n using Nat.strongRecOn with
  | ind n ih =>
    by_cases hSmall : n < 10
    · have hAll : ∀ n < 10, 0 < n → some (Nat.digitChar n) ≠ some '0' := by
        decide
      rw [Nat.toDigits_of_lt_base hSmall]
      exact hAll n hSmall hPos
    · have hLess : n / 10 < n := Nat.div_lt_self hPos (by decide)
      have hRest : 0 < n / 10 := Nat.div_pos (by omega) (by decide)
      rw [Nat.toDigits_of_base_le (by decide) (by omega),
        List.head?_append_of_ne_nil _ Nat.toDigits_ne_nil]
      exact ih _ hLess hRest

/- Digits that do not begin with a zero have none too many. -/
theorem isWhole_of_head?
    {digits : List Char}
    (hNe : digits ≠ [])
    (hHead : digits.head? ≠ some '0') :
    isWhole digits = true := by
  match digits with
  | [_] => rfl
  | c :: _ :: _ => simpa [isWhole] using hHead

/- The digits that a number is written with have no zero too many. -/
theorem isWhole_toDigits
    (n : Nat) :
    isWhole (Nat.toDigits 10 n) = true := by
  cases Nat.eq_zero_or_pos n with
  | inl hZero => rw [hZero]; rfl
  | inr hPos => exact isWhole_of_head? Nat.toDigits_ne_nil (head?_toDigits hPos)

variable {whole places : List Char} (sign : Int)

/- Digits alone are an integer. -/
theorem unsigned?_whole
    (hDigits : ∀ c ∈ whole, c.isDigit = true)
    (hWhole : isWhole whole = true) :
    unsigned? sign whole =
      some (.int (sign * Nat.ofDigitChars 10 whole 0)) := by
  have hTake := List.takeWhile_eq_self_iff.mpr hDigits
  have hDrop := List.dropWhile_eq_nil_iff.mpr hDigits
  rw [unsigned?, hTake, hDrop, if_pos hWhole]
  simp [places?, exponent?, decimal]

/- Digits around a point are a decimal. -/
theorem unsigned?_places
    (hDigits : ∀ c ∈ whole, c.isDigit = true)
    (hWhole : isWhole whole = true)
    (hPlaces : ∀ c ∈ places, c.isDigit = true)
    (hNe : places ≠ []) :
    unsigned? sign (whole ++ '.' :: places) =
      some (.fraction (sign * Nat.ofDigitChars 10 (whole ++ places) 0)
        places.length) := by
  have hPoint : ∀ c ∈ ('.' :: places).head?, c.isDigit = false := by
    simp
  have hSpan := span_run hDigits hPoint
  have hTake := List.takeWhile_eq_self_iff.mpr hPlaces
  have hDrop := List.dropWhile_eq_nil_iff.mpr hPlaces
  rw [unsigned?, hSpan.1, hSpan.2, if_pos hWhole, places?, hTake, hDrop,
    if_neg hNe]
  simp [exponent?, decimal, hNe]

theorem number?_digits
    {c : Char}
    (hDigit : c.isDigit = true)
    (rest : List Char) :
    number? (c :: rest) = unsigned? 1 (c :: rest) := by
  rw [number?]
  rintro _ hMinus
  cases hMinus
  exact absurd hDigit (by decide)

theorem bare?_digits
    {c : Char}
    (hDigit : c.isDigit = true)
    (rest : List Char) :
    bare? (c :: rest) = unsigned? 1 (c :: rest) := by
  have hOther : ∀ d : Char, d.isDigit = false → c ≠ d := by
    rintro d hLetter rfl
    rw [hLetter] at hDigit
    cases hDigit
  have hNull := hOther 'n' rfl
  have hTrue := hOther 't' rfl
  have hFalse := hOther 'f' rfl
  simp [bare?, hNull, hTrue, hFalse, number?_digits hDigit]

theorem bare?_minus
    (rest : List Char) :
    bare? ('-' :: rest) = unsigned? (-1) rest := by
  simp [bare?, number?]

end Json

end ResourcePack

------------------------------------------------------------
-- Numbers as They Are Written
------------------------------------------------------------

namespace ResourcePack

namespace Json

/- The sign that a number is written with. -/
def signText
    (n : Int) : List Char :=
  if n < 0 then ['-'] else []

/- The sign of a number as a factor. -/
def signFactor
    (n : Int) : Int :=
  if n < 0 then -1 else 1

/- A number is its sign times its size. -/
theorem signFactor_mul_natAbs
    (n : Int) :
    signFactor n * n.natAbs = n := by
  unfold signFactor
  split <;> omega

/- A sign in front of digits is read as a factor. -/
theorem bare?_signText
    (n : Int)
    {digits : List Char}
    (hNe : digits ≠ [])
    (hDigits : ∀ c ∈ digits, c.isDigit = true)
    (rest : List Char) :
    bare? (signText n ++ (digits ++ rest)) =
      unsigned? (signFactor n) (digits ++ rest) := by
  unfold signText signFactor
  cases digits with
  | nil => exact absurd rfl hNe
  | cons c digits =>
    split
    · exact bare?_minus _
    · exact bare?_digits (hDigits c List.mem_cons_self) _

/- An integer is written as its sign and its digits. -/
theorem toList_toString_int
    (n : Int) :
    (toString n).toList = signText n ++ Nat.toDigits 10 n.natAbs := by
  unfold signText
  rw [Int.toString_eq_repr, Int.repr_eq_if]
  by_cases hSign : n < 0
  · have hAbs : (-n).toNat = n.natAbs := by omega
    rw [if_neg (by omega), if_pos hSign, hAbs]
    simp [Nat.repr_eq_ofList_toDigits]
  · have hAbs : n.toNat = n.natAbs := by omega
    rw [if_pos (by omega), if_neg hSign, hAbs]
    simp [Nat.repr_eq_ofList_toDigits]

theorem isDigit_of_mem_toDigits
    {n : Nat}
    {c : Char}
    (hMem : c ∈ Nat.toDigits 10 n) :
    c.isDigit = true :=
  Nat.isDigit_of_mem_toDigits (by decide) (by decide) hMem

/- An integer is read back from its text. -/
theorem bare?_toString
    (n : Int) :
    bare? (toString n).toList = some (.int n) := by
  have hDigits : ∀ c ∈ Nat.toDigits 10 n.natAbs, c.isDigit = true :=
    fun _ hMem => isDigit_of_mem_toDigits hMem
  have hSign := bare?_signText n Nat.toDigits_ne_nil hDigits []
  rw [List.append_nil] at hSign
  rw [toList_toString_int, hSign,
    unsigned?_whole _ hDigits (isWhole_toDigits _),
    Nat.ofDigitChars_ten_toDigits, signFactor_mul_natAbs]

/- Digits with as many zeros in front as leave one before the point. -/
def padded
    (n places : Nat) : List Char :=
  List.replicate (places + 1 - (Nat.toDigits 10 n).length) '0' ++
    Nat.toDigits 10 n

/- The digits of a decimal that stand before its point. -/
def wholeDigits
    (n places : Nat) : List Char :=
  (padded n places).take ((padded n places).length - places)

/- The digits of a decimal that stand behind its point. -/
def placeDigits
    (n places : Nat) : List Char :=
  (padded n places).drop ((padded n places).length - places)

/- A decimal is written as its sign and digits around a point. -/
theorem toList_fractionText
    (mantissa : Int)
    (places : Nat) :
    (fractionText mantissa places).toList =
      signText mantissa ++ (wholeDigits mantissa.natAbs places ++
        '.' :: placeDigits mantissa.natAbs places) := by
  unfold fractionText signText wholeDigits placeDigits padded
  split <;> simp

variable (n places : Nat)

theorem isDigit_of_mem_padded
    {c : Char}
    (hMem : c ∈ padded n places) :
    c.isDigit = true := by
  rcases List.mem_append.mp hMem with hZero | hDigit
  · rw [(List.mem_replicate.mp hZero).2]
    rfl
  · exact isDigit_of_mem_toDigits hDigit

theorem length_padded :
    (padded n places).length =
      max (places + 1) (Nat.toDigits 10 n).length := by
  unfold padded
  rw [List.length_append, List.length_replicate]
  omega

theorem length_placeDigits :
    (placeDigits n places).length = places := by
  unfold placeDigits
  rw [List.length_drop, length_padded]
  omega

/- Zeros in front do not change the value. -/
theorem ofDigitChars_wholeDigits_append :
    Nat.ofDigitChars 10 (wholeDigits n places ++ placeDigits n places) 0 = n := by
  unfold wholeDigits placeDigits
  rw [List.take_append_drop, padded, Nat.ofDigitChars_append,
    Nat.ofDigitChars_replicate_zero, Nat.mul_zero,
    Nat.ofDigitChars_ten_toDigits]

/- The digits before the point have no zero too many. -/
theorem isWhole_wholeDigits :
    isWhole (wholeDigits n places) = true := by
  have hLength : (wholeDigits n places).length =
      max 1 ((Nat.toDigits 10 n).length - places) := by
    unfold wholeDigits
    rw [List.length_take, length_padded]
    omega
  -- one digit may be a zero, and more of them have none put in front
  by_cases hShort : (Nat.toDigits 10 n).length ≤ places + 1
  · have hOne : (wholeDigits n places).length = 1 := by omega
    rcases List.length_eq_one_iff.mp hOne with ⟨c, hDigit⟩
    rw [hDigit]
    rfl
  · have hPos : 0 < n := by
      by_contra hZero
      rw [Nat.eq_zero_of_not_pos hZero, Nat.toDigits_zero] at hShort
      exact hShort (Nat.le_add_left 1 places)
    have hPadded : padded n places = Nat.toDigits 10 n := by
      have hNone : places + 1 - (Nat.toDigits 10 n).length = 0 := by omega
      rw [padded, hNone]
      rfl
    apply isWhole_of_head?
    · apply List.ne_nil_of_length_pos
      omega
    · rw [wholeDigits, hPadded, List.head?_take, if_neg (by omega)]
      exact head?_toDigits hPos

/- A decimal with places is read back from its text. -/
theorem bare?_fractionText
    (mantissa : Int)
    {places : Nat}
    (hPlaces : 0 < places) :
    bare? (fractionText mantissa places).toList =
      some (.fraction mantissa places) := by
  have hWhole : ∀ c ∈ wholeDigits mantissa.natAbs places,
      c.isDigit = true :=
    fun _ hMem => isDigit_of_mem_padded _ _ (List.mem_of_mem_take hMem)
  have hPlace : ∀ c ∈ placeDigits mantissa.natAbs places,
      c.isDigit = true :=
    fun _ hMem => isDigit_of_mem_padded _ _ (List.mem_of_mem_drop hMem)
  have hValid := isWhole_wholeDigits mantissa.natAbs places
  have hWholeNe : wholeDigits mantissa.natAbs places ≠ [] := by
    intro hEmpty
    rw [hEmpty] at hValid
    cases hValid
  have hPlaceNe : placeDigits mantissa.natAbs places ≠ [] := by
    apply List.ne_nil_of_length_pos
    rw [length_placeDigits]
    exact hPlaces
  rw [toList_fractionText, bare?_signText mantissa hWholeNe hWhole,
    unsigned?_places _ hWhole hValid hPlace hPlaceNe,
    ofDigitChars_wholeDigits_append, signFactor_mul_natAbs,
    length_placeDigits]

end Json

end ResourcePack
