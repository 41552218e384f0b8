import ResourcePack.Proofs.Bundle.Acceptance
import ResourcePack.Proofs.Identifier.Words
import ResourcePack.Proofs.Path.Components

/-
  The two policies compared.

  Main declarations:
    * `ResourcePack.Identifier.sanitize_escape_of_reject`
    * `ResourcePack.Bundle.insert_escape_of_reject`
    * `ResourcePack.Bundle.insert_escape_ne_invalidIdentifier`

  What is accepted under `reject` stays as it is under `escape`, so
  that an insertion that succeeds under `reject` succeeds with the
  same bundle.  Only the empty text has no identifier under
  `escape`, and no directory has an empty name.
-/

------------------------------------------------------------
-- Identifiers
------------------------------------------------------------

namespace ResourcePack

namespace Identifier

theorem escaped_of_fault?_eq_none
    {text : String}
    (hNone : fault? text = none) :
    escaped text = text := by
  have hWord := isWord_of_fault?_eq_none hNone
  rw [fault?_of_isWord hWord] at hNone
  have hDigit : ¬startsWithDigit text.toList = true := by
    intro hDigit
    simp [hDigit] at hNone
  have hReserved : ¬isReserved text = true := by
    intro hReserved
    simp [hDigit, hReserved] at hNone
  unfold escaped
  rw [if_neg hReserved, if_neg hDigit, List.nil_append,
    flatMap_escapeChar hWord.chars, String.ofList_toList]

/- What is accepted as an identifier is the same one when escaped. -/
theorem sanitize_escape_of_reject
    {text word : String}
    (hReject : sanitize .reject text = .ok word) :
    sanitize .escape text = .ok word := by
  unfold sanitize at hReject ⊢
  cases hFault : fault? text with
  | some fault =>
    rw [hFault] at hReject
    cases hReject
  | none =>
    rw [hFault] at hReject
    have hNe := (isWord_of_fault?_eq_none hFault).ne_empty
    simp only [if_neg hNe, escaped_of_fault?_eq_none hFault]
    exact hReject

/- Every text that is not empty has an identifier when escaped. -/
theorem sanitize_escape_eq_ok
    {text : String}
    (hNe : text ≠ "") :
    sanitize .escape text = .ok (escaped text) := by
  unfold sanitize
  exact if_neg hNe

end Identifier

end ResourcePack

------------------------------------------------------------
-- Insertion
------------------------------------------------------------

namespace ResourcePack

namespace Bundle

open Identifier

theorem scopeOf_escape_of_reject
    {name : String}
    {scope : List String}
    (hReject : scopeOf name .reject = .ok scope) :
    scopeOf name .escape = .ok scope :=
  mapM_eq_ok_of_imp (fun _ _ => sanitize_escape_of_reject) hReject

theorem exists_scopeOf_escape
    (name : String) :
    ∃ scope, scopeOf name .escape = .ok scope := by
  apply mapM_isOk_iff.mpr
  intro component hMem
  exact ⟨_, sanitize_escape_eq_ok (Path.ne_empty_of_mem_directories hMem)⟩

theorem insert_escape_of_reject
    {b b' : Bundle}
    {r : Resource}
    (hReject : b.insert r .reject = .ok b') :
    b.insert r .escape = .ok b' := by
  unfold insert at hReject ⊢
  cases hSymbol : b.position? r.symbol with
  | some i =>
    rw [hSymbol] at hReject
    cases hReject
  | none =>
    cases hScope : scopeOf r.name .reject with
    | error e =>
      rw [hSymbol, hScope] at hReject
      cases hReject
    | ok scope =>
      rw [hSymbol, hScope] at hReject
      rw [scopeOf_escape_of_reject hScope]
      exact hReject

/- Under `escape` no insertion fails for want of an identifier. -/
theorem insert_escape_ne_invalidIdentifier
    (b : Bundle)
    (r : Resource)
    (name : String)
    (fault : IdentifierFault) :
    b.insert r .escape ≠ .error (.invalidIdentifier name fault) := by
  rcases exists_scopeOf_escape r.name with ⟨scope, hScope⟩
  unfold insert
  cases b.position? r.symbol with
  | some i => simp
  | none =>
    simp only [hScope]
    cases b.clash? scope r.ident <;> simp

end Bundle

end ResourcePack
