import Mathlib.Data.List.Basic
import ResourcePack.Path

/-
  The components of paths.

  Main declarations:
    * `ResourcePack.Path.mem_walk`
    * `ResourcePack.Path.ne_empty_of_mem_directories`

  Following a path only reaches names that are components of it,
  and what stands for a component is never empty.
-/

namespace ResourcePack

namespace Path

theorem ne_empty_of_step?
    {component name : String}
    (hStep : step? component = some (.down name)) :
    name ≠ "" := by
  unfold step? at hStep
  by_cases hNothing : (component = "" || component = ".") = true
  · rw [if_pos hNothing] at hStep
    cases hStep
  · rw [if_neg hNothing] at hStep
    by_cases hUp : component = ".."
    · rw [if_pos hUp] at hStep
      cases hStep
    · rw [if_neg hUp, Option.some.injEq, Step.down.injEq] at hStep
      rw [← hStep]
      intro hEmpty
      exact hNothing (by simp [hEmpty])

/- A name that is reached was there before, or is a step down. -/
theorem mem_walk
    {position : List String}
    {path : List Step}
    {name : String}
    (hMem : name ∈ walk position path) :
    name ∈ position ∨ .down name ∈ path := by
  unfold walk at hMem
  induction path generalizing position with
  | nil => exact Or.inl hMem
  | cons step rest ih =>
    rcases ih hMem with hHere | hLater
    · cases step with
      | up => exact Or.inl ((List.dropLast_prefix position).subset hHere)
      | down first =>
        rcases List.mem_append.mp hHere with hBefore | hFirst
        · exact Or.inl hBefore
        · rw [List.mem_singleton.mp hFirst]
          exact Or.inr List.mem_cons_self
    · exact Or.inr (List.mem_cons_of_mem step hLater)

/- No directory of a path has an empty name. -/
theorem ne_empty_of_mem_directories
    {path name : String}
    (hMem : name ∈ directories path) :
    name ≠ "" := by
  have hNormal : name ∈ normal path :=
    (List.dropLast_prefix _).subset hMem
  rcases mem_walk hNormal with hNone | hStep
  · cases hNone
  · rcases List.mem_filterMap.mp hStep with ⟨component, -, hComponent⟩
    exact ne_empty_of_step? hComponent

end Path

end ResourcePack
