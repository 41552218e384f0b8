import ResourcePack.Text.LowerCase

/-
  Lower case of ASCII texts, and of characters that stay as they are.

  Key definitions include:
    * `ResourcePack.Text.isLower`

  Main declarations:
    * `ResourcePack.Text.of_forall_lt`
    * `ResourcePack.Text.lowerChar_of_ascii`
    * `ResourcePack.Text.lowerCase_of_ascii`
    * `ResourcePack.Text.lowerCase_of_isLower`
    * `ResourcePack.Text.mem_lowerCase`

  Of the runs of characters with a lower-case form only the first one
  is in ASCII, so that the table does not have to be searched.
-/

------------------------------------------------------------
-- ASCII
------------------------------------------------------------

namespace ResourcePack

namespace Text

/- Behind the first one, all runs begin beyond ASCII. -/
theorem le_of_mem_tail_lowerRuns
    {run : Nat × Nat × Nat × Int}
    (hMem : run ∈ lowerRuns.tail) :
    128 ≤ run.1 := by
  have hAll : ∀ run ∈ lowerRuns.tail, 128 ≤ run.1 := by
    decide +kernel
  exact hAll run hMem

/- What is true of the first 128 characters is true of ASCII. -/
theorem of_forall_lt
    (p : Char → Prop)
    (hAll : ∀ n < 128, p (Char.ofNat n))
    {c : Char}
    (hAscii : c.toNat < 128) :
    p c := by
  rw [← Char.ofNat_toNat c]
  exact hAll c.toNat hAscii

theorem lowerChar_of_ascii
    {c : Char}
    (hAscii : c.toNat < 128) :
    lowerChar c = [c.toLower] := by
  by_cases hUpper : c.isUpper = true
  · have hAll : ∀ n < 128, (Char.ofNat n).isUpper = true →
        lowerChar (Char.ofNat n) = [(Char.ofNat n).toLower] := by
      decide +kernel
    exact of_forall_lt
      (fun c => c.isUpper = true → lowerChar c = [c.toLower])
      hAll hAscii hUpper
  · have hSame : c.toLower = c :=
      dif_neg fun hRange => hUpper (decide_eq_true hRange)
    have hNone : lowerRuns.find? (fun run =>
        run.1 ≤ c.toNat && c.toNat ≤ run.2.1 &&
          (c.toNat - run.1) % run.2.2.1 == 0) = none := by
      rw [List.find?_eq_none]
      intro run hMem hFound
      have hRuns : lowerRuns = (0x41, 0x5A, 1, 32) :: lowerRuns.tail := rfl
      simp only [Bool.and_eq_true, decide_eq_true_eq] at hFound
      rw [hRuns] at hMem
      rcases List.mem_cons.mp hMem with rfl | hTail
      · exact hUpper (decide_eq_true
          ⟨UInt32.le_iff_toNat_le.mpr hFound.1.1,
            UInt32.le_iff_toNat_le.mpr hFound.1.2⟩)
      · have hBeyond := le_of_mem_tail_lowerRuns hTail
        omega
    have hDot : c.toNat ≠ 0x130 := by omega
    unfold lowerChar
    rw [if_neg hDot, hNone, hSame]

theorem lowerCase_of_ascii
    {text : String}
    (hAscii : ∀ c ∈ text.toList, c.toNat < 128) :
    lowerCase text = String.ofList (text.toList.map Char.toLower) := by
  have hFrom : ∀ (before cs : List Char), (∀ c ∈ cs, c.toNat < 128) →
      lowerFrom before cs = cs.map Char.toLower := by
    intro before cs hCs
    induction cs generalizing before with
    | nil => rfl
    | cons c rest ih =>
      rw [List.forall_mem_cons] at hCs
      have hSigma : c ≠ 'Σ' := by
        rintro rfl
        exact absurd hCs.1 (by decide)
      unfold lowerFrom
      rw [if_neg hSigma, lowerChar_of_ascii hCs.1, ih _ hCs.2]
      rfl
  unfold lowerCase
  rw [hFrom [] text.toList hAscii]

/- Whether a text is in ASCII and has no capital letters. -/
def isLower
    (text : String) : Bool :=
  text.toList.all fun c => c.toNat < 128 && c.toLower = c

/- Such a text is its own lower-case form. -/
theorem lowerCase_of_isLower
    {text : String}
    (hLower : isLower text = true) :
    lowerCase text = text := by
  have hChars : ∀ c ∈ text.toList, c.toNat < 128 ∧ c.toLower = c := by
    simpa [isLower] using hLower
  have hMap : text.toList.map Char.toLower = text.toList := by
    rw [List.map_congr_left fun c hMem => (hChars c hMem).2, List.map_id']
  rw [lowerCase_of_ascii fun c hMem => (hChars c hMem).1, hMap,
    String.ofList_toList]

end Text

end ResourcePack

------------------------------------------------------------
-- Characters That Stay
------------------------------------------------------------

namespace ResourcePack

namespace Text

/- What is its own lower-case form stays where it stands. -/
theorem mem_lowerCase
    {c : Char}
    (hKept : lowerChar c = [c])
    {text : String}
    (hMem : c ∈ text.toList) :
    c ∈ (lowerCase text).toList := by
  have hSigma : c ≠ 'Σ' := by
    rintro rfl
    revert hKept
    decide +kernel
  have hFrom : ∀ (before cs : List Char),
      c ∈ cs → c ∈ lowerFrom before cs := by
    intro before cs
    induction cs generalizing before with
    | nil =>
      intro hNone
      cases hNone
    | cons d rest ih =>
      intro hMem
      unfold lowerFrom
      apply List.mem_append.mpr
      rcases List.mem_cons.mp hMem with rfl | hRest
      · left
        rw [if_neg hSigma, hKept]
        exact List.mem_cons_self
      · exact .inr (ih _ hRest)
  unfold lowerCase
  rw [String.toList_ofList]
  exact hFrom [] text.toList hMem

end Text

end ResourcePack
