import ResourcePack.Settings.Value
import ResourcePack.Text.LowerCase

/-
  Paths into settings.

  Key definitions include:
    * `ResourcePack.Settings.KeyStep`
    * `ResourcePack.Settings.keyPath?`
    * `ResourcePack.Settings.Value.assign`
    * `ResourcePack.Settings.Value.setAt`
    * `ResourcePack.Settings.Value.set`

  A key such as `a.b[2]` leads to a place inside nested tables and
  lists, which is made if it is not there.  A table that is put in
  the place of a table adds its fields to it.
-/

------------------------------------------------------------
-- Reading Paths
------------------------------------------------------------

namespace ResourcePack

namespace Settings

/- One step into a setting; an index may count from the end. -/
inductive KeyStep where
  | field (name : String)
  | index (i : Int)
  deriving DecidableEq

/- Whether a character may stand in the names of a path. -/
def isNameChar
    (c : Char) : Bool :=
  c.isAlphanum || c = '_' || c = '-' || c = ' '

/- A name, and what follows it. -/
def name?
    (cs : List Char) : Option (String × List Char) :=
  match cs.takeWhile isNameChar with
  | [] => none
  | name => some (String.ofList name, cs.dropWhile isNameChar)

/- The index in brackets, without a sign or with a minus. -/
def index?
    (cs : List Char) : Option Int := do
  let inner := ((cs.dropWhile (· = ' ')).reverse.dropWhile (· = ' ')).reverse
  if inner.head? = some '+' then none
  Decimal.int64? inner

/- At most so many steps behind the first name of a path. -/
def keySteps? : Nat → List Char → Option (List KeyStep)
  | _, [] => some []
  | 0, _ => none
  | count + 1, '.' :: rest => do
    let (name, rest) ← name? rest
    return .field name :: (← keySteps? count rest)
  | count + 1, '[' :: rest => do
    let i ← index? (rest.takeWhile (· ≠ ']'))
    match rest.dropWhile (· ≠ ']') with
    | ']' :: rest => return .index i :: (← keySteps? count rest)
    | _ => none
  | _, _ => none

/- The path that a key stands for, if it has the form of one. -/
def keyPath?
    (key : String) : Option (List KeyStep) := do
  let (name, rest) ← name? key.toList
  return .field name :: (← keySteps? rest.length rest)

end Settings

end ResourcePack

------------------------------------------------------------
-- Setting Values
------------------------------------------------------------

namespace ResourcePack

namespace Settings

namespace Value

mutual

/-
  Set a field of a table.  A table adds its fields, one by one, to
  the table that is there; any other value takes the place.
-/
def assign
    (target : Value)
    (name : String) : Value → Value
  | table fields =>
    let name := Text.lowerCase name
    target.withField name (assignAll ((target.field? name).getD empty) fields)
  | v => target.withField (Text.lowerCase name) v

/- Set several fields of a table. -/
def assignAll
    (target : Value) : List (String × Value) → Value
  | [] => target
  | (name, v) :: rest => assignAll (assign target name v) rest

end

/- The position that an index means in a list. -/
def position
    (i : Int)
    (length : Nat) : Nat :=
  if 0 ≤ i then i.toNat else length - i.natAbs

/- A list with one item changed; gaps in front of it are `nil`. -/
def changeItem
    (i : Int)
    (change : Value → Value)
    (items : List Value) : List Value :=
  let n := position i items.length
  (items ++ List.replicate (n + 1 - items.length) nil).modify n change

/- Set the value at the end of a path. -/
def setAt
    (value : Value) : List KeyStep → Value → Value
  | [], _ => value
  | [.field name], v => v.assign name value
  | .field name :: path, v =>
    v.withField name (setAt value path ((v.field? name).getD nil))
  | .index i :: path, v => list (changeItem i (setAt value path) v.items)

/- Set the value of a key, which may be a path. -/
def set
    (v : Value)
    (key : String)
    (value : Value) : Value :=
  let key := Text.lowerCase key
  setAt value ((keyPath? key).getD [.field key]) v

/- Set the values of keys, in the order of the keys. -/
def setAll
    (v : Value)
    (fields : List (String × Value)) : Value :=
  (fields.mergeSort fun a b => !decide (b.1 < a.1)).foldl (fun v f => v.set f.1 f.2) v

end Value

end Settings

end ResourcePack
