import ResourcePack.Settings.Value
import ResourcePack.Text.Lines
import ResourcePack.Toml.Quoted

/-
  Numbers, dates and truth values in configuration files.

  Key definitions include:
    * `ResourcePack.Toml.integer?`
    * `ResourcePack.Toml.real?`
    * `ResourcePack.Toml.dateTime?`
    * `ResourcePack.Toml.scalar?`

  A scalar is a run of letters, digits and a few marks; it is read
  as a whole.  Dates and times have no kind of their own and are
  given as texts in their usual form.
-/

------------------------------------------------------------
-- Digits
------------------------------------------------------------

namespace ResourcePack.Toml

/-
  Digits in which single underscores may stand between two of them;
  the answer has the digits alone.
-/
def grouped?
    (isDigit : Char → Bool) : List Char → Option (List Char)
  | [] => none
  | [c] => if isDigit c then some [c] else none
  | c :: '_' :: rest => if isDigit c then (grouped? isDigit rest).map (c :: ·) else none
  | c :: rest => if isDigit c then (grouped? isDigit rest).map (c :: ·) else none

/- A sign, and what follows it. -/
def signed : List Char → Bool × List Char
  | '+' :: rest => (false, rest)
  | '-' :: rest => (true, rest)
  | cs => (false, cs)

/- Decimal digits without a zero in front, unless it is the only one. -/
def wholePart?
    (cs : List Char) : Option (List Char) := do
  let digits ← grouped? Char.isDigit cs
  match digits with
  | '0' :: _ :: _ => none
  | digits => some digits

/- The value of digits of a base. -/
def ofDigits
    (base : Nat)
    (cs : List Char) : Nat :=
  cs.foldl (fun value c => base * value + (hexDigit? c).getD 0) 0

def isBinaryDigit
    (c : Char) : Bool :=
  c = '0' || c = '1'

def isOctalDigit
    (c : Char) : Bool :=
  '0' ≤ c && c ≤ '7'

def isHexDigit
    (c : Char) : Bool :=
  (hexDigit? c).isSome

end ResourcePack.Toml

------------------------------------------------------------
-- Numbers
------------------------------------------------------------

namespace ResourcePack.Toml

/- A whole number: decimal with a sign, or of another base without. -/
def whole? : List Char → Option Int
  | '0' :: 'x' :: rest => (grouped? isHexDigit rest).map fun ds => Int.ofNat (ofDigits 16 ds)
  | '0' :: 'o' :: rest => (grouped? isOctalDigit rest).map fun ds => Int.ofNat (ofDigits 8 ds)
  | '0' :: 'b' :: rest => (grouped? isBinaryDigit rest).map fun ds => Int.ofNat (ofDigits 2 ds)
  | cs =>
    let (negative, rest) := signed cs
    (wholePart? rest).map fun ds =>
      let n := Int.ofNat (ofDigits 10 ds)
      if negative then -n else n

/- An integer of 64 bits. -/
def integer?
    (cs : List Char) : Option Int :=
  (whole? cs).filter Decimal.isInt64

/- Whether a character begins an exponent. -/
def isExponentMark
    (c : Char) : Bool :=
  c = 'e' || c = 'E'

/- The exponent of a number, with its mark; none is 0. -/
def realExponent? : List Char → Option Int
  | [] => some 0
  | _ :: rest => do
    let (negative, digits) := signed rest
    let n := Int.ofNat (ofDigits 10 (← grouped? Char.isDigit digits))
    return if negative then -n else n

/- The digits after the point, with the point; there may be none. -/
def places? : List Char → Option (List Char)
  | [] => some []
  | '.' :: rest => grouped? Char.isDigit rest
  | _ => none

/-
  A number with a point, an exponent or both.  A number that is too
  great is refused.
-/
def finiteReal?
    (cs : List Char) : Option Double := do
  let (negative, rest) := signed cs
  let isEnd := fun c => isExponentMark c || c = '.'
  let whole ← wholePart? (rest.takeWhile (!isEnd ·))
  let rest := rest.dropWhile (!isEnd ·)
  let places ← places? (rest.takeWhile (!isExponentMark ·))
  let exponent ← realExponent? (rest.dropWhile (!isExponentMark ·))
  if rest.isEmpty then none
  let x := Double.ofDecimal negative (ofDigits 10 (whole ++ places))
    (exponent - Int.ofNat places.length)
  if x = .infinite false then none else some x

/- A floating-point number. -/
def real?
    (cs : List Char) : Option Double :=
  match signed cs with
  | (negative, ['i', 'n', 'f']) => some (.infinite negative)
  | (_, ['n', 'a', 'n']) => some .nan
  | _ => finiteReal? cs

end ResourcePack.Toml

------------------------------------------------------------
-- Dates and Times
------------------------------------------------------------

namespace ResourcePack.Toml

/- A number of a fixed count of digits. -/
def fixed?
    (count : Nat)
    (cs : List Char) : Option Nat :=
  if cs.length = count && cs.all Char.isDigit then some (ofDigits 10 cs) else none

/- A number of two digits within bounds. -/
def twoDigits?
    (low high : Nat)
    (cs : List Char) : Option Nat := do
  let n ← fixed? 2 cs
  if low ≤ n && n ≤ high then some n else none

/- The number of days in a month. -/
def daysIn
    (year month : Nat) : Nat :=
  if month = 2 then
    if year % 4 = 0 && (year % 100 ≠ 0 || year % 400 = 0) then 29 else 28
  else if month = 4 || month = 6 || month = 9 || month = 11 then 30
  else 31

/- A date, in its usual form. -/
def date?
    (cs : List Char) : Option (List Char) := do
  match cs with
  | [y1, y2, y3, y4, '-', m1, m2, '-', d1, d2] =>
    let year ← fixed? 4 [y1, y2, y3, y4]
    let month ← twoDigits? 1 12 [m1, m2]
    let _ ← twoDigits? 1 (daysIn year month) [d1, d2]
    return cs
  | _ => none

/-
  The fraction of a second in its shortest form: nine places at
  most, and no zeros at the end.
-/
def fraction?
    (cs : List Char) : Option (List Char) :=
  match cs with
  | [] => some []
  | '.' :: digits =>
    if digits.isEmpty || !digits.all Char.isDigit then
      none
    else
      match ((digits.take 9).reverse.dropWhile (· = '0')).reverse with
      | [] => some []
      | shown => some ('.' :: shown)
  | _ => none

/- A time of day. -/
def time? : List Char → Option (List Char)
  | h1 :: h2 :: ':' :: m1 :: m2 :: ':' :: s1 :: s2 :: rest => do
    let _ ← twoDigits? 0 23 [h1, h2]
    let _ ← twoDigits? 0 59 [m1, m2]
    let _ ← twoDigits? 0 60 [s1, s2]
    return [h1, h2, ':', m1, m2, ':', s1, s2] ++ (← fraction? rest)
  | _ => none

/- Whether a character begins the offset of a time. -/
def isOffsetMark
    (c : Char) : Bool :=
  c = 'Z' || c = 'z' || c = '+' || c = '-'

/- The offset of a time, if there is one. -/
def offset? : List Char → Option (List Char)
  | [] => some []
  | ['Z'] => some ['Z']
  | ['z'] => some ['Z']
  | [mark, h1, h2, ':', m1, m2] => do
    let hours ← twoDigits? 0 23 [h1, h2]
    let minutes ← twoDigits? 0 59 [m1, m2]
    let mark ← if mark = '+' || mark = '-' then some mark else none
    return (if hours = 0 && minutes = 0 then '+' else mark) :: [h1, h2, ':', m1, m2]
  | _ => none

/- A date, a time, or both with an offset that may be left out. -/
def dateTime?
    (cs : List Char) : Option (List Char) :=
  match cs.splitAt 10 with
  | (day, []) => date? day <|> time? cs
  | (day, mark :: rest) =>
    if mark = 'T' || mark = 't' || mark = ' ' then do
      let day ← date? day
      let time ← time? (rest.takeWhile (!isOffsetMark ·))
      let offset ← offset? (rest.dropWhile (!isOffsetMark ·))
      return day ++ 'T' :: time ++ offset
    else
      time? cs

end ResourcePack.Toml

------------------------------------------------------------
-- Scalars
------------------------------------------------------------

namespace ResourcePack.Toml

open Settings (Value)

/- The characters that scalars are made of. -/
def isScalarChar
    (c : Char) : Bool :=
  c.isAlphanum || c = '+' || c = '-' || c = '_' || c = '.' || c = ':'

/- Whether a run of characters can be a date that a time follows. -/
def isDate
    (cs : List Char) : Bool :=
  (date? cs).isSome

/- The value of a scalar. -/
def scalar?
    (cs : List Char) : Option Value :=
  if cs = ['t', 'r', 'u', 'e'] then some (.bool true)
  else if cs = ['f', 'a', 'l', 's', 'e'] then some (.bool false)
  else
    match dateTime? cs, integer? cs, real? cs with
    | some s, _, _ => some (.text (String.ofList s))
    | none, some n, _ => some (.int n)
    | none, none, some x => some (.real x)
    | none, none, none => none

/-
  The scalar at the front of a text, and what follows it.  Behind a
  date one space may stand before the time.
-/
def takeScalar?
    (cs : List Char) : Option (Value × List Char) := do
  let run := cs.takeWhile isScalarChar
  let rest := cs.dropWhile isScalarChar
  match isDate run, rest with
  | true, ' ' :: c :: more =>
    if c.isDigit then
      let time := (c :: more).takeWhile isScalarChar
      return (← scalar? (run ++ ' ' :: time), (c :: more).dropWhile isScalarChar)
    else
      return (← scalar? run, rest)
  | _, _ => return (← scalar? run, rest)

end ResourcePack.Toml
