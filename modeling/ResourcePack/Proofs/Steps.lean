/-
  Steps that can fail, one after the other and over lists.

  Main declarations:
    * `ResourcePack.bind_eq_ok_iff`
    * `ResourcePack.mapM_cons_eq_ok_iff`
    * `ResourcePack.mapM_isOk_iff`
    * `ResourcePack.mapM_map_eq_some`

  A step fails with an error or finds nothing, and what comes behind
  it is not done then.
-/

------------------------------------------------------------
-- Two Steps
------------------------------------------------------------

namespace ResourcePack

variable {ε α β : Type}

/- Two steps succeed if the second does with what the first gives. -/
theorem bind_eq_ok_iff
    {x : Except ε α}
    {f : α → Except ε β}
    {b : β} :
    (x >>= f) = .ok b ↔ ∃ a, x = .ok a ∧ f a = .ok b := by
  cases x with
  | error e => simp [bind, Except.bind]
  | ok a => simp [bind, Except.bind]

theorem bind_of_eq_ok
    {x : Except ε α}
    {f : α → Except ε β}
    {a : α}
    {b : β}
    (hStep : x = .ok a)
    (hRest : f a = .ok b) :
    (x >>= f) = .ok b :=
  bind_eq_ok_iff.mpr ⟨a, hStep, hRest⟩

/- What is checked first does not hold where the rest succeeds. -/
theorem guard_eq_ok_iff
    {c : Prop}
    [Decidable c]
    {e : ε}
    {f : α → Except ε β}
    {rest : Except ε β}
    {b : β} :
    (if c then throw e >>= f else rest) = .ok b ↔ ¬c ∧ rest = .ok b := by
  by_cases hHolds : c
  · simp [hHolds, bind, Except.bind, throw, throwThe, MonadExceptOf.throw]
  · simp [hHolds]

theorem bind_of_eq_some
    {x : Option α}
    {f : α → Option β}
    {a : α}
    {b : β}
    (hStep : x = some a)
    (hRest : f a = some b) :
    (x >>= f) = some b := by
  rw [hStep]
  exact hRest

end ResourcePack

------------------------------------------------------------
-- Lists
------------------------------------------------------------

namespace ResourcePack

variable {ε α β : Type} {f : α → Except ε β}

theorem mapM_cons_eq_ok_iff
    {x : α}
    {rest : List α}
    {ys : List β} :
    (x :: rest).mapM f = .ok ys ↔
      ∃ y others, f x = .ok y ∧ rest.mapM f = .ok others ∧
        ys = y :: others := by
  rw [List.mapM_cons]
  cases f x with
  | error e => simp [bind, Except.bind]
  | ok y =>
    cases rest.mapM f with
    | error e => simp [bind, Except.bind]
    | ok others =>
      simp [bind, Except.bind, pure, Except.pure, eq_comm]

theorem mapM_isOk_iff
    {xs : List α} :
    (∃ ys, xs.mapM f = .ok ys) ↔ ∀ x ∈ xs, ∃ y, f x = .ok y := by
  induction xs with
  | nil => simp [pure, Except.pure]
  | cons x rest ih =>
    rw [List.forall_mem_cons, ← ih, List.mapM_cons]
    cases f x with
    | error e => simp [bind, Except.bind]
    | ok y =>
      cases rest.mapM f <;>
        simp [bind, Except.bind, pure, Except.pure]

/- What a list is mapped to are values of its elements. -/
theorem exists_of_mem_mapM
    {xs : List α}
    {ys : List β}
    (hMap : xs.mapM f = .ok ys)
    {y : β}
    (hMem : y ∈ ys) :
    ∃ x ∈ xs, f x = .ok y := by
  induction xs generalizing ys with
  | nil =>
    have hNil : ys = [] := (Except.ok.inj hMap).symm
    subst hNil
    cases hMem
  | cons x rest ih =>
    rcases mapM_cons_eq_ok_iff.mp hMap with
      ⟨first, others, hFirst, hRest, hList⟩
    rw [hList, List.mem_cons] at hMem
    rcases hMem with hHere | hThere
    · exact ⟨x, List.mem_cons_self, hHere ▸ hFirst⟩
    · rcases ih hRest hThere with ⟨x', hX', hValue⟩
      exact ⟨x', List.mem_cons_of_mem x hX', hValue⟩

/- A function that agrees wherever another succeeds maps lists alike. -/
theorem mapM_eq_ok_of_imp
    {g : α → Except ε β}
    (hAgree : ∀ x y, f x = .ok y → g x = .ok y)
    {xs : List α}
    {ys : List β}
    (hMap : xs.mapM f = .ok ys) :
    xs.mapM g = .ok ys := by
  induction xs generalizing ys with
  | nil => exact hMap
  | cons x rest ih =>
    rcases mapM_cons_eq_ok_iff.mp hMap with
      ⟨y, others, hFirst, hRest, hList⟩
    exact mapM_cons_eq_ok_iff.mpr
      ⟨y, others, hAgree x y hFirst, ih hRest, hList⟩

/- A list that is not mapped has an element that is not. -/
theorem exists_of_mapM_eq_error
    {xs : List α}
    {e : ε}
    (hError : xs.mapM f = .error e) :
    ∃ x ∈ xs, f x = .error e := by
  induction xs with
  | nil => cases hError
  | cons x rest ih =>
    rw [List.mapM_cons] at hError
    cases hFirst : f x with
    | error e' =>
      rw [hFirst] at hError
      cases hError
      exact ⟨x, List.mem_cons_self, hFirst⟩
    | ok y =>
      cases hRest : rest.mapM f with
      | error e' =>
        rw [hFirst, hRest] at hError
        cases hError
        rcases ih hRest with ⟨x', hMem, hFails⟩
        exact ⟨x', List.mem_cons_of_mem x hMem, hFails⟩
      | ok ys =>
        rw [hFirst, hRest] at hError
        cases hError

/- Values that are read one by one are read as a list. -/
theorem mapM_map_eq_some
    (write : α → β)
    (read : β → Option α)
    (hRead : ∀ a, read (write a) = some a)
    (as : List α) :
    (as.map write).mapM read = some as := by
  induction as with
  | nil => rfl
  | cons a rest ih =>
    rw [List.map_cons, List.mapM_cons]
    exact bind_of_eq_some (hRead a) (bind_of_eq_some ih rfl)

end ResourcePack
