import ResourcePack.Double

/-
  The shortest decimals that stand for floating-point numbers.

  Key definitions include:
    * `ResourcePack.Double.Scaled`
    * `ResourcePack.Double.Scaled.readsBack`
    * `ResourcePack.Double.shortest`
    * `ResourcePack.Double.text`

  A decimal stands for a number when it is nearer to it than to any
  other.  Of those with the fewest digits the nearest is taken, and
  of two that are equally near the greater.  It is written in full,
  without an exponent and without a point where none is needed.
-/

------------------------------------------------------------
-- The Decimals of a Number
------------------------------------------------------------

namespace ResourcePack

namespace Double

/-
  A number and the bounds of the decimals that stand for it, as
  multiples of `10 ^ (-places)`.
-/
structure Scaled where
  low : Nat
  value : Nat
  high : Nat
  closed : Bool
  places : Nat

/- The bounds of `m * 2 ^ q`, half way to its neighbours. -/
def scaled
    (m : Nat)
    (q : Int) : Scaled :=
  let unit := Nat.pow 2 (q - 2).toNat * Nat.pow 5 (2 - q).toNat
  let below := if m = hiddenBit && minExponent < q then 1 else 2
  { low := (4 * m - below) * unit
    value := 4 * m * unit
    high := (4 * m + 2) * unit
    closed := m % 2 = 0
    places := (2 - q).toNat }

/- Whether a multiple of `10 ^ (-places)` stands for the number. -/
def Scaled.readsBack
    (s : Scaled)
    (n : Nat) : Bool :=
  if s.closed then s.low ≤ n && n ≤ s.high else s.low < n && n < s.high

/-
  The nearer of the multiples of `10 ^ p` around the number that
  stand for it, counted in `10 ^ p`.
-/
def Scaled.onGrid?
    (s : Scaled)
    (p : Nat) : Option Nat :=
  let grid := Nat.pow 10 p
  let below := s.value / grid
  match s.readsBack (below * grid), s.readsBack ((below + 1) * grid) with
  | true, true => some (if 2 * (s.value % grid) < grid then below else below + 1)
  | true, false => some below
  | false, true => some (below + 1)
  | false, false => none

/-
  The decimal with the fewest digits that stands for `m * 2 ^ q`: a
  natural number and the exponent of ten.  Seventeen digits are
  always enough.
-/
def shortest
    (m : Nat)
    (q : Int) : Nat × Int :=
  let s := scaled m q
  let size := (Nat.toDigits 10 s.value).length
  let found := (List.range 17).findSome? fun n =>
    (s.onGrid? (size - (n + 1))).map fun digits =>
      (digits, Int.ofNat (size - (n + 1)) - Int.ofNat s.places)
  found.getD (s.value, -Int.ofNat s.places)

end Double

end ResourcePack

------------------------------------------------------------
-- Texts
------------------------------------------------------------

namespace ResourcePack

namespace Double

/- Without the zeros at the end. -/
def dropZeros
    (cs : List Char) : List Char :=
  (cs.reverse.dropWhile (· = '0')).reverse

/- The number `digits * 10 ^ exponent`, written in full. -/
def positional
    (digits : Nat)
    (exponent : Int) : List Char :=
  let cs := Nat.toDigits 10 digits
  if 0 ≤ exponent then
    cs ++ List.replicate exponent.toNat '0'
  else
    let places := (-exponent).toNat
    let padded := List.replicate (places + 1 - cs.length) '0' ++ cs
    let whole := padded.take (padded.length - places)
    match dropZeros (padded.drop (padded.length - places)) with
    | [] => whole
    | fraction => whole ++ '.' :: fraction

/- A sign, where there is one. -/
def sign
    (negative : Bool) : String :=
  if negative then "-" else ""

/- The text of a number. -/
def text : Double → String
  | nan => "NaN"
  | infinite negative => sign negative ++ "inf"
  | finite negative m q =>
    if m = 0 then
      sign negative ++ "0"
    else
      let (digits, exponent) := shortest m q
      sign negative ++ String.ofList (positional digits exponent)

end Double

end ResourcePack
