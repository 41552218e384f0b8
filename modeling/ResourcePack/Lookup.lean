/-
  Looking values up in lists of pairs.

  Main declarations:
    * `ResourcePack.lookup_eq_some_iff_mem`
    * `ResourcePack.lookup_eq_of_perm`
    * `ResourcePack.lookup_filter`
    * `ResourcePack.lookup_map`

  The first pair with a key has its value.  Where there is one such
  pair at most, the order of the pairs does not matter.
-/

namespace ResourcePack

variable {α β : Type} [BEq α] [LawfulBEq α] {k : α}

/- Where a key occurs once at most, any pair with it is the first. -/
theorem lookup_eq_some_iff_mem
    {l : List (α × β)}
    (hOnce : (l.map Prod.fst).count k ≤ 1)
    {v : β} :
    l.lookup k = some v ↔ (k, v) ∈ l := by
  constructor
  · intro hLookup
    rcases List.lookup_eq_some_iff.mp hLookup with ⟨l₁, l₂, hList, -⟩
    rw [hList]
    exact List.mem_append_right _ List.mem_cons_self
  · intro hMem
    rcases List.append_of_mem hMem with ⟨l₁, l₂, rfl⟩
    rw [List.map_append, List.map_cons, List.count_append,
      List.count_cons_self] at hOnce
    have hNone : (l₁.map Prod.fst).count k = 0 := by omega
    refine List.lookup_eq_some_iff.mpr ⟨l₁, l₂, rfl, ?_⟩
    intro p hFirst
    have hNe : k ≠ p.1 := by
      intro hEq
      exact List.count_eq_zero.mp hNone (hEq ▸ List.mem_map_of_mem hFirst)
    exact bne_iff_ne.mpr hNe

/- There the order of the pairs does not matter. -/
theorem lookup_eq_of_perm
    {l l' : List (α × β)}
    (hPerm : l.Perm l')
    (hOnce : (l.map Prod.fst).count k ≤ 1) :
    l.lookup k = l'.lookup k := by
  have hOnce' : (l'.map Prod.fst).count k ≤ 1 := by
    rw [← (hPerm.map Prod.fst).count_eq k]
    exact hOnce
  apply Option.ext
  intro v
  rw [lookup_eq_some_iff_mem hOnce, lookup_eq_some_iff_mem hOnce',
    hPerm.mem_iff]

/- Pairs that are kept or left out by their keys. -/
theorem lookup_filter
    (l : List (α × β))
    (keep : α → Bool) :
    (l.filter fun p => keep p.1).lookup k =
      if keep k then l.lookup k else none := by
  induction l with
  | nil => simp
  | cons p rest ih =>
    obtain ⟨key, v⟩ := p
    by_cases hKey : k = key
    · subst hKey
      cases hKeep : keep k with
      | true => simp [hKeep]
      | false =>
        rw [List.filter_cons_of_neg (by simp [hKeep]), ih, hKeep]
        rfl
    · have hSkip : (k == key) = false := beq_eq_false_iff_ne.mpr hKey
      rw [List.lookup_cons, hSkip, ← ih]
      cases hKeep : keep key with
      | true => simp [hKeep, List.lookup_cons, hSkip]
      | false => rw [List.filter_cons_of_neg (by simp [hKeep])]

omit [LawfulBEq α] in
/- Among pairs that are made of something, the first with a key. -/
theorem lookup_map
    {γ : Type}
    (f : γ → α × β)
    (l : List γ) :
    (l.map f).lookup k = (l.find? fun x => k == (f x).1).map fun x => (f x).2 := by
  induction l with
  | nil => rfl
  | cons x rest ih =>
    rw [List.map_cons, List.lookup_cons, List.find?_cons, ih]
    cases k == (f x).1 <;> rfl

end ResourcePack
