import ResourcePack.Decimal

/-
  Floating-point numbers of 64 bits, exactly.

  Key definitions include:
    * `ResourcePack.Double`
    * `ResourcePack.Double.rounded`
    * `ResourcePack.Double.ofDecimal`
    * `ResourcePack.Double.ofText?`
    * `ResourcePack.Double.toNat?`

  A finite number is `m * 2 ^ q`, with 53 bits for `m` and `q` from
  -1074 to 971.  A decimal stands for the nearest such number; half
  way between two of them, for the one whose `m` is even.
-/

------------------------------------------------------------
-- Rounding
------------------------------------------------------------

namespace ResourcePack

/- A floating-point number of 64 bits. -/
inductive Double where
  | nan
  | infinite (negative : Bool)
  | finite (negative : Bool) (m : Nat) (q : Int)
  deriving DecidableEq

namespace Double

/- The least exponent. -/
def minExponent : Int :=
  -1074

/- The least `m` that has all 53 bits, which is 2^52. -/
def hiddenBit : Nat :=
  4503599627370496

/- The greatest exponent. -/
def maxExponent : Int :=
  971

/- The quotient of two numbers, rounded to nearest, ties to even. -/
def roundDiv
    (a b : Nat) : Nat :=
  let n := a / b
  let rest := 2 * (a % b)
  if rest < b then n
  else if b < rest then n + 1
  else if n % 2 = 0 then n
  else n + 1

/- The quotient `a / b / 2 ^ q`, rounded. -/
def roundAt
    (a b : Nat)
    (q : Int) : Nat :=
  roundDiv (a * Nat.pow 2 (-q).toNat) (b * Nat.pow 2 q.toNat)

/- The exponent that leaves 53 bits of a quotient, or the least. -/
def exponentOf
    (a b : Nat) : Int :=
  let q := max minExponent (Int.ofNat a.log2 - Int.ofNat b.log2 - 53)
  if a * Nat.pow 2 (-q).toNat < hiddenBit * 2 * (b * Nat.pow 2 q.toNat) then q else q + 1

/- The number nearest to the quotient of two numbers. -/
def rounded
    (negative : Bool)
    (a b : Nat) : Double :=
  if a = 0 then
    .finite negative 0 minExponent
  else
    let q := exponentOf a b
    let m := roundAt a b q
    let (m, q) := if m = 2 * hiddenBit then (hiddenBit, q + 1) else (m, q)
    if maxExponent < q then .infinite negative else .finite negative m q

/-
  The number nearest to `digits * 10 ^ exponent`.  Beyond 400 places
  on either side nothing has to be computed.
-/
def ofDecimal
    (negative : Bool)
    (digits : Nat)
    (exponent : Int) : Double :=
  let size := Int.ofNat (Nat.toDigits 10 digits).length + exponent
  if digits = 0 || size < -400 then .finite negative 0 minExponent
  else if 400 < size then .infinite negative
  else rounded negative (digits * Nat.pow 10 exponent.toNat) (Nat.pow 10 (-exponent).toNat)

end Double

end ResourcePack

------------------------------------------------------------
-- Reading
------------------------------------------------------------

namespace ResourcePack

namespace Double

/- The digits at the front of a text, and the rest. -/
def takeDigits
    (cs : List Char) : List Char × List Char :=
  (cs.takeWhile Char.isDigit, cs.dropWhile Char.isDigit)

/- The exponent behind the digits of a number, if it is well formed. -/
def exponent? : List Char → Option Int
  | [] => some 0
  | c :: rest => if c = 'e' || c = 'E' then Decimal.integer? rest else none

/-
  A number without its sign: digits, a point that may stand before,
  after or between them, and an exponent.
-/
def unsigned?
    (negative : Bool)
    (cs : List Char) : Option Double :=
  let (whole, rest) := takeDigits cs
  let (places, rest) :=
    match rest with
    | '.' :: after => takeDigits after
    | _ => ([], rest)
  match Decimal.digits? (whole ++ places), exponent? rest with
  | some digits, some exponent =>
    some (ofDecimal negative digits (exponent - Int.ofNat places.length))
  | _, _ => none

/- The words that stand for no number and for a number without bound. -/
def word?
    (negative : Bool)
    (cs : List Char) : Option Double :=
  let word := String.ofList (cs.map Char.toLower)
  if word = "nan" then some .nan
  else if word = "inf" || word = "infinity" then some (.infinite negative)
  else none

/- A text as a number with an optional sign. -/
def ofText? : List Char → Option Double
  | '+' :: rest => word? false rest <|> unsigned? false rest
  | '-' :: rest => word? true rest <|> unsigned? true rest
  | cs => word? false cs <|> unsigned? false cs

end Double

end ResourcePack

------------------------------------------------------------
-- Whole Numbers
------------------------------------------------------------

namespace ResourcePack

namespace Double

/- Whether a number is zero, of either sign. -/
def isZero : Double → Bool
  | finite _ m _ => m = 0
  | _ => false

/-
  The natural number nearest to a number, halves rounded up.  What
  is negative or no number gives 0, and what has no bound nothing.
-/
def toNat? : Double → Option Nat
  | nan => some 0
  | infinite negative => if negative then some 0 else none
  | finite negative m q =>
    if negative then
      some 0
    else
      let unit := Nat.pow 2 (-q).toNat
      some ((2 * m * Nat.pow 2 q.toNat + unit) / (2 * unit))

end Double

end ResourcePack
