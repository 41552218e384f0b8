/-
  Sets of characters given by ranges of code points.

  Key definitions include:
    * `ResourcePack.Text.within`

  The tables of Unicode properties in this folder are lists of
  inclusive ranges in increasing order; `within` asks whether a
  character lies in one of them.
-/

namespace ResourcePack.Text

/- Whether the code point of `c` lies in one of the ranges. -/
def within
    (ranges : List (Nat × Nat))
    (c : Char) : Bool :=
  ranges.any fun r => r.1 ≤ c.toNat && c.toNat ≤ r.2

end ResourcePack.Text
