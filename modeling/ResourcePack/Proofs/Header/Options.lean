import ResourcePack.Header
import ResourcePack.Proofs.Identifier.Words

/-
  What the options of a header are made of.

  Key definitions include:
    * `ResourcePack.HeaderOptions.IsClassName`
    * `ResourcePack.HeaderOptions.Clean`

  Main declarations:
    * `ResourcePack.HeaderOptions.clean_of_validate`

  Options that are accepted hold words, names of classes that are
  words between colons, and files that can be named in a line.
-/

namespace ResourcePack

namespace HeaderOptions

open Identifier

/- A text of characters of identifiers and of colons. -/
def IsClassName
    (text : String) : Prop :=
  ∀ c ∈ text.toList, isIdentChar c = true ∨ c = ':'

/- Options that can be told apart from what is written around them. -/
structure Clean
    (o : HeaderOptions) : Prop where
  scope : IsWord o.scope
  guard : IsWord o.guard
  resourceClass : IsClassName o.resourceClass
  includes : ∀ file ∈ o.includes, isIncludable file = true

theorem mem_scopePieces
    {text : List Char}
    {c : Char}
    (hMem : c ∈ text) :
    c = ':' ∨ ∃ piece ∈ scopePieces text, c ∈ piece := by
  fun_induction scopePieces text with
  | case1 rest ih =>
    rw [List.mem_cons, List.mem_cons] at hMem
    rcases hMem with hFirst | hSecond | hRest
    · exact Or.inl hFirst
    · exact Or.inl hSecond
    · rcases ih hRest with hColon | ⟨piece, hPiece, hIn⟩
      · exact Or.inl hColon
      · exact Or.inr ⟨piece, List.mem_cons_of_mem _ hPiece, hIn⟩
  | case2 d rest hNot hNil ih =>
    rcases List.mem_cons.mp hMem with hFirst | hRest
    · exact Or.inr ⟨[d], by simp, by simp [hFirst]⟩
    · rcases ih hRest with hColon | ⟨piece, hPiece, hIn⟩
      · exact Or.inl hColon
      · rw [hNil] at hPiece
        cases hPiece
  | case3 d rest hNot first others hPieces ih =>
    rcases List.mem_cons.mp hMem with hFirst | hRest
    · exact Or.inr ⟨d :: first, by simp, by simp [hFirst]⟩
    · rcases ih hRest with hColon | ⟨piece, hPiece, hIn⟩
      · exact Or.inl hColon
      · rw [hPieces] at hPiece
        rcases List.mem_cons.mp hPiece with hHere | hThere
        · refine Or.inr ⟨d :: first, by simp, ?_⟩
          exact List.mem_cons_of_mem _ (hHere ▸ hIn)
        · exact Or.inr ⟨piece, List.mem_cons_of_mem _ hThere, hIn⟩
  | case4 => cases hMem

/- What was taken off the front of a class name are colons. -/
theorem mem_relativeClass
    {text : List Char}
    {c : Char}
    (hMem : c ∈ text) :
    c = ':' ∨ c ∈ relativeClass text := by
  fun_cases relativeClass text with
  | case1 rest =>
    rw [List.mem_cons, List.mem_cons] at hMem
    rcases hMem with hFirst | hSecond | hRest
    · exact Or.inl hFirst
    · exact Or.inl hSecond
    · exact Or.inr hRest
  | case2 => exact Or.inr hMem

/- A class name all of whose parts are words. -/
theorem isClassName_of_parts
    {text : String}
    (hParts : ∀ part ∈ classParts text, IsWord part) :
    IsClassName text := by
  intro c hMem
  rcases mem_relativeClass hMem with hColon | hRelative
  · exact Or.inr hColon
  · rcases mem_scopePieces hRelative with hColon | ⟨piece, hPiece, hIn⟩
    · exact Or.inr hColon
    · have hWord : IsWord (String.ofList piece) :=
        hParts _ (List.mem_map_of_mem hPiece)
      have hChars := hWord.chars c
      rw [String.toList_ofList] at hChars
      exact Or.inl (hChars hIn)

/- A text passes as an identifier exactly if it has no fault. -/
theorem requireIdentifier_eq_ok_iff
    {text : String} :
    requireIdentifier text = .ok () ↔ fault? text = none := by
  unfold requireIdentifier sanitize
  cases fault? text <;> simp

/- What options have to pass, check by check. -/
theorem validate_eq_ok_iff
    {o : HeaderOptions} :
    o.validate = .ok () ↔
      requireIdentifier o.scope = .ok () ∧
        requireIdentifier o.guard = .ok () ∧
        (∀ part ∈ classParts o.resourceClass, fault? part = none) ∧
        ∀ file ∈ o.includes, isIncludable file = true := by
  have hClass : ((classParts o.resourceClass).any fun part =>
      (fault? part).isSome) = false ↔
        ∀ part ∈ classParts o.resourceClass, fault? part = none := by
    simp
  have hFiles : (o.includes.find? fun file => !isIncludable file) = none ↔
      ∀ file ∈ o.includes, isIncludable file = true := by
    simp
  rw [← hClass, ← hFiles]
  unfold validate
  cases requireIdentifier o.scope with
  | error e => simp [bind, Except.bind]
  | ok u =>
    cases requireIdentifier o.guard with
    | error e => simp [bind, Except.bind]
    | ok v =>
      cases (classParts o.resourceClass).any fun part =>
          (fault? part).isSome with
      | true =>
        simp [bind, Except.bind, throw, throwThe, MonadExceptOf.throw]
      | false =>
        cases o.includes.find? fun file => !isIncludable file with
        | some file =>
          simp [bind, Except.bind, throw, throwThe,
            MonadExceptOf.throw]
        | none => simp [bind, Except.bind, pure, Except.pure]

theorem clean_of_validate
    {o : HeaderOptions}
    (hValid : o.validate = .ok ()) :
    o.Clean := by
  rcases validate_eq_ok_iff.mp hValid with
    ⟨hScope, hGuard, hClass, hFiles⟩
  rw [requireIdentifier_eq_ok_iff] at hScope hGuard
  refine ⟨isWord_of_fault?_eq_none hScope,
    isWord_of_fault?_eq_none hGuard, ?_, hFiles⟩
  apply isClassName_of_parts
  intro part hPart
  exact isWord_of_fault?_eq_none (hClass part hPart)

end HeaderOptions

end ResourcePack
