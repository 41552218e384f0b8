/-
  Whole numbers as they are written in settings and arguments.

  Key definitions include:
    * `ResourcePack.Decimal.digits?`
    * `ResourcePack.Decimal.natural?`
    * `ResourcePack.Decimal.integer?`
    * `ResourcePack.Decimal.isWord32`
    * `ResourcePack.Decimal.isInt64`

  A number is a run of ASCII digits, with as many zeros in front as
  one likes, behind an optional sign.  Settings hold numbers of a
  limited size.
-/

namespace ResourcePack

namespace Decimal

/- The value of digits that follow a value; other characters refuse. -/
def digitsFrom
    (value : Nat) : List Char → Option Nat
  | [] => some value
  | c :: rest =>
    if c.isDigit then digitsFrom (10 * value + (c.toNat - 48)) rest else none

/- The value of one or more digits. -/
def digits? : List Char → Option Nat
  | [] => none
  | cs => digitsFrom 0 cs

/- A natural number, which may have a plus sign. -/
def natural? : List Char → Option Nat
  | '+' :: rest => digits? rest
  | cs => digits? cs

/- An integer with an optional sign. -/
def integer? : List Char → Option Int
  | '+' :: rest => (digits? rest).map Int.ofNat
  | '-' :: rest => (digits? rest).map fun n => -Int.ofNat n
  | cs => (digits? cs).map Int.ofNat

/- Whether a number has 32 bits and no sign. -/
def isWord32
    (n : Int) : Bool :=
  0 ≤ n && n < 4294967296

/- Whether a number has 64 bits and no sign. -/
def isWord64
    (n : Int) : Bool :=
  0 ≤ n && n < 18446744073709551616

/- Whether a number has 64 bits, one of them for the sign. -/
def isInt64
    (n : Int) : Bool :=
  -9223372036854775808 ≤ n && n < 9223372036854775808

/- An integer of 64 bits. -/
def int64?
    (cs : List Char) : Option Int :=
  (integer? cs).filter isInt64

end Decimal

end ResourcePack
