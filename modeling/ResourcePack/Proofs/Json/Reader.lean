import ResourcePack.Decimal
import ResourcePack.Json
import ResourcePack.Toml.Quoted

/-
  A reader of JSON texts.

  Key definitions include:
    * `ResourcePack.Json.string?`
    * `ResourcePack.Json.number?`
    * `ResourcePack.Json.Token`
    * `ResourcePack.Json.tokens?`
    * `ResourcePack.Json.State`
    * `ResourcePack.Json.step`
    * `ResourcePack.Json.read`

  Main declarations:
    * `ResourcePack.Json.length_lt_of_string?`

  The reader takes the whole format and not only what the writers
  make of it: any white space between tokens, every escape in a
  string, with pairs of units for characters beyond the first plane,
  and numbers with an exponent.  It refuses everything else, such as
  a control character in a string, a zero in front of a number, a
  comma too many, or anything behind the value.  A text is cut into
  tokens first; these are read from left to right, with what is still
  open on a stack.
-/

------------------------------------------------------------
-- Strings
------------------------------------------------------------

namespace ResourcePack

namespace Json

/- The character that is written as this one behind a backslash. -/
def escaped?
    (c : Char) : Option Char :=
  if c = '"' || c = '\\' || c = '/' then some c
  else if c = 'b' then some '\x08'
  else if c = 'f' then some '\x0c'
  else if c = 'n' then some '\n'
  else if c = 'r' then some '\r'
  else if c = 't' then some '\t'
  else none

/- The first half of a pair of units that stand for one character. -/
def isHighHalf
    (unit : Nat) : Bool :=
  0xd800 ≤ unit && unit < 0xdc00

/- The second half of such a pair. -/
def isLowHalf
    (unit : Nat) : Bool :=
  0xdc00 ≤ unit && unit < 0xe000

/-
  What a unit of 16 bits stands for, behind the first half of a pair
  or alone: a character, or a first half that is now open.
-/
def unit?
    (high : Option Nat)
    (unit : Nat) : Option (Char ⊕ Nat) :=
  match high with
  | some first =>
    if isLowHalf unit then
      some (.inl (Char.ofNat (0x10000 + 0x400 * (first - 0xd800) + (unit - 0xdc00))))
    else
      none
  | none =>
    if isHighHalf unit then some (.inr unit)
    else if isLowHalf unit then none
    else some (.inl (Char.ofNat unit))

/-
  A string behind its first quote: the characters up to the quote that
  ends it, and what follows.  Behind the first half of a pair only the
  second one may stand.
-/
def string?
    (high : Option Nat) : List Char → Toml.Read
  | [] => none
  | '\\' :: 'u' :: a :: b :: c :: d :: rest =>
    match (Toml.hexFrom 0 [a, b, c, d]).bind (unit? high) with
    | some (.inl decoded) => Toml.put decoded (string? none rest)
    | some (.inr first) => string? (some first) rest
    | none => none
  | '\\' :: c :: rest =>
    match high, escaped? c with
    | none, some decoded => Toml.put decoded (string? none rest)
    | _, _ => none
  | c :: rest =>
    if high.isSome then none
    else if c = '"' then some ([], rest)
    else if c = '\\' || c.toNat < 32 then none
    else Toml.put c (string? none rest)

end Json

end ResourcePack

------------------------------------------------------------
-- Numbers and Constants
------------------------------------------------------------

namespace ResourcePack

namespace Json

/- Digits without a zero in front that could be left out. -/
def isWhole : List Char → Bool
  | [] => false
  | [_] => true
  | c :: _ => c ≠ '0'

/- The digits behind a point, if there is one, and what follows. -/
def places? : List Char → Option (List Char × List Char)
  | '.' :: rest =>
    let digits := rest.takeWhile Char.isDigit
    if digits = [] then none else some (digits, rest.dropWhile Char.isDigit)
  | rest => some ([], rest)

/- The exponent that ends a number, if there is one. -/
def exponent? : List Char → Option (Option Int)
  | [] => some none
  | c :: rest =>
    if c = 'e' || c = 'E' then (Decimal.integer? rest).map some else none

/-
  A number by its sign, its digits before and behind the point, and
  its exponent.  It is an integer if it has nothing but digits.
-/
def decimal
    (sign : Int)
    (whole places : List Char)
    (exponent : Option Int) : Json :=
  let mantissa : Int := sign * Nat.ofDigitChars 10 (whole ++ places) 0
  let scale : Int := exponent.getD 0 - places.length
  if places = [] ∧ exponent = none then
    .int mantissa
  else if scale < 0 then
    .fraction mantissa scale.natAbs
  else
    .fraction (mantissa * Nat.pow 10 scale.natAbs) 0

/- A number behind its sign. -/
def unsigned?
    (sign : Int)
    (cs : List Char) : Option Json :=
  let whole := cs.takeWhile Char.isDigit
  if isWhole whole then do
    let (places, rest) ← places? (cs.dropWhile Char.isDigit)
    return decimal sign whole places (← exponent? rest)
  else
    none

/- A number. -/
def number? : List Char → Option Json
  | '-' :: rest => unsigned? (-1) rest
  | cs => unsigned? 1 cs

/- A value without quotes or brackets. -/
def bare?
    (cs : List Char) : Option Json :=
  if cs = "null".toList then some .null
  else if cs = "true".toList then some (.bool true)
  else if cs = "false".toList then some (.bool false)
  else number? cs

end Json

end ResourcePack

------------------------------------------------------------
-- Tokens
------------------------------------------------------------

namespace ResourcePack

namespace Json

/- What a text is made of, white space apart. -/
inductive Token where
  | openList
  | closeList
  | openObject
  | closeObject
  | comma
  | colon
  | text (s : String)
  | bare (j : Json)

/- White space. -/
def isBlank
    (c : Char) : Bool :=
  c = ' ' || c = '\t' || c = '\n' || c = '\r'

/- The characters of numbers and constants. -/
def isBare
    (c : Char) : Bool :=
  c.isAlphanum || c = '-' || c = '+' || c = '.'

/- The token that a single character is. -/
def mark?
    (c : Char) : Option Token :=
  if c = '[' then some .openList
  else if c = ']' then some .closeList
  else if c = '\x7b' then some .openObject
  else if c = '\x7d' then some .closeObject
  else if c = ',' then some .comma
  else if c = ':' then some .colon
  else none

/- One more character in front leaves as much as there was. -/
theorem put_eq_some
    {c : Char}
    {r : Toml.Read}
    {text rest : List Char}
    (hPut : Toml.put c r = some (text, rest)) :
    ∃ text', r = some (text', rest) := by
  rcases Option.map_eq_some_iff.mp hPut with ⟨⟨text', rest'⟩, hRead, hEq⟩
  cases hEq
  exact ⟨text', hRead⟩

/- A string leaves less than it was read from. -/
theorem length_lt_of_string?
    {high : Option Nat}
    {cs text rest : List Char}
    (hRead : string? high cs = some (text, rest)) :
    rest.length < cs.length := by
  fun_induction string? high cs generalizing text with
  | case1 | case4 | case6 | case7 | case9 => cases hRead
  | case2 high a b c d left decoded hUnit ih =>
    rcases put_eq_some hRead with ⟨text', hRest⟩
    exact Nat.lt_add_right 5 (Nat.lt_succ_of_lt (ih hRest))
  | case3 high a b c d left first hUnit ih =>
    exact Nat.lt_add_right 5 (Nat.lt_succ_of_lt (ih hRead))
  | case5 c left hNotUnit decoded hEscaped ih =>
    rcases put_eq_some hRead with ⟨text', hRest⟩
    exact Nat.lt_succ_of_lt (Nat.lt_succ_of_lt (ih hRest))
  | case8 =>
    cases hRead
    exact Nat.lt_succ_self _
  | case10 high c left hNotUnit hNotEscape hAlone hQuote hPlain ih =>
    rcases put_eq_some hRead with ⟨text', hRest⟩
    exact Nat.lt_succ_of_lt (ih hRest)

/-
  The tokens of a text.  Numbers and constants reach as far as there
  are characters of which they could be made.
-/
def tokens? : List Char → Option (List Token)
  | [] => some []
  | c :: rest =>
    if isBlank c then
      tokens? rest
    else if c = '"' then
      match _ : string? none rest with
      | some (s, left) => (tokens? left).map (.text (String.ofList s) :: ·)
      | none => none
    else
      match mark? c with
      | some t => (tokens? rest).map (t :: ·)
      | none =>
        match bare? (c :: rest.takeWhile isBare) with
        | some j => (tokens? (rest.dropWhile isBare)).map (.bare j :: ·)
        | none => none
termination_by cs => cs.length
decreasing_by
  · exact Nat.lt_succ_self _
  · exact Nat.lt_succ_of_lt (length_lt_of_string? (by assumption))
  · exact Nat.lt_succ_self _
  · exact Nat.lt_succ_of_le (List.dropWhile_suffix isBare).length_le

end Json

end ResourcePack

------------------------------------------------------------
-- Values
------------------------------------------------------------

namespace ResourcePack

namespace Json

/- A list or an object that is open, with what is already in it. -/
inductive Frame where
  | list (items : List Json)
  | object (fields : List (String × Json)) (name : String)

/- Where a reader of tokens stands. -/
inductive Place where
  -- a value has to follow
  | value
  -- an item, or the end of the list
  | firstItem
  -- a name, or the end of the object
  | firstName
  -- a name has to follow
  | name (fields : List (String × Json))
  -- a colon has to follow
  | colon (fields : List (String × Json)) (name : String)
  -- a comma, or the end of what is open
  | behind (j : Json)

/- A reader at a place, with what is open around it, innermost first. -/
structure State where
  place : Place
  frames : List Frame

/- What a token begins where a value has to stand. -/
def begin?
    (frames : List Frame) : Token → Option State
  | .text s => some ⟨.behind (.text s), frames⟩
  | .bare j => some ⟨.behind j, frames⟩
  | .openList => some ⟨.firstItem, frames⟩
  | .openObject => some ⟨.firstName, frames⟩
  | _ => none

/- What a token does to a list or an object behind a value in it. -/
def continue?
    (j : Json)
    (frames : List Frame) : Token → Frame → Option State
  | .comma, .list items => some ⟨.value, .list (items ++ [j]) :: frames⟩
  | .closeList, .list items => some ⟨.behind (.list (items ++ [j])), frames⟩
  | .comma, .object fields name => some ⟨.name (fields ++ [(name, j)]), frames⟩
  | .closeObject, .object fields name =>
    some ⟨.behind (.object (fields ++ [(name, j)])), frames⟩
  | _, _ => none

/- Read a token. -/
def step
    (s : State)
    (t : Token) : Option State :=
  match s.place, t, s.frames with
  | .value, _, frames => begin? frames t
  | .firstItem, .closeList, frames => some ⟨.behind (.list []), frames⟩
  | .firstItem, _, frames => begin? (.list [] :: frames) t
  | .firstName, .closeObject, frames => some ⟨.behind (.object []), frames⟩
  | .firstName, .text name, frames => some ⟨.colon [] name, frames⟩
  | .name fields, .text name, frames => some ⟨.colon fields name, frames⟩
  | .colon fields name, .colon, frames => some ⟨.value, .object fields name :: frames⟩
  | .behind j, _, frame :: frames => continue? j frames t frame
  | _, _, _ => none

/- Read tokens one after the other. -/
def run
    (s : State)
    (ts : List Token) : Option State :=
  ts.foldlM step s

/- The value that tokens make up. -/
def value?
    (ts : List Token) : Option Json :=
  match run ⟨.value, []⟩ ts with
  | some ⟨.behind j, []⟩ => some j
  | _ => none

/- The value that a text stands for. -/
def read
    (text : String) : Option Json :=
  (tokens? text.toList).bind value?

end Json

end ResourcePack
