import ResourcePack.Decimal
import ResourcePack.Error
import ResourcePack.Log.Event
import ResourcePack.Text.Alphanumeric
import ResourcePack.Text.Blank
import ResourcePack.Text.Lines

/-
  The directives of a log filter.

  Key definitions include:
    * `ResourcePack.Log.Level.ofText?`
    * `ResourcePack.Log.Directive`
    * `ResourcePack.Log.Directive.parse`
    * `ResourcePack.Log.Directive.appliesTo`

  A directive says how much is logged of a target and of everything
  below it: `level`, `target`, or `target=level`.  Between target
  and level may stand a span with fields in brackets.  A directive
  without a level shows everything.
-/

------------------------------------------------------------
-- Levels
------------------------------------------------------------

namespace ResourcePack

namespace Log

namespace Level

/- The level of a number. -/
def ofNumber? : Nat → Option Level
  | 0 => some off
  | 1 => some error
  | 2 => some warn
  | 3 => some info
  | 4 => some debug
  | 5 => some trace
  | _ => none

/- The level of a name, in letters of any case. -/
def ofName?
    (name : String) : Option Level :=
  [off, error, warn, info, debug, trace].find? fun l =>
    l.name.toList = name.toList.map Char.toUpper

/- A level by its number or its name. -/
def ofText?
    (text : String) : Option Level :=
  ((Decimal.natural? text.toList).bind ofNumber?) <|> ofName? text

end Level

end Log

end ResourcePack

------------------------------------------------------------
-- Directives
------------------------------------------------------------

namespace ResourcePack

namespace Log

/- One directive: what it applies to, and how much it shows. -/
structure Directive where
  target : Option String := none
  inSpan : Bool := false
  fields : List String := []
  fieldValues : Bool := false
  level : Level := .trace
  deriving DecidableEq

namespace Directive

/-
  Whether a directive can apply to events.  One that asks for a
  span, or for the values of fields, applies to events in spans
  only, and there are none.
-/
def concernsEvents
    (d : Directive) : Bool :=
  !d.inSpan && !d.fieldValues

/- The fields that an event has. -/
def fieldNames
    (e : Event) : List String :=
  "message" :: e.fields.map Prod.fst

/- Whether a directive applies to an event. -/
def appliesTo
    (d : Directive)
    (e : Event) : Bool :=
  (match d.target with
    | some target => target.toList.isPrefixOf e.target.toList
    | none => true) &&
  d.fields.all fun name => (fieldNames e).contains name

end Directive

end Log

end ResourcePack

------------------------------------------------------------
-- Reading Directives
------------------------------------------------------------

namespace ResourcePack

namespace Log

namespace Directive

/- Where a reader stands in a directive, and where that part began. -/
inductive Place where
  | start
  | word
  | span (since : Nat)
  | field (since : Nat)
  | fieldsEnd
  | target
  | level (since : Nat)
  | finished

/- The part of a text between two positions. -/
def part
    (text : List Char)
    (since stop : Nat) : String :=
  String.ofList ((text.drop since).take (stop - since))

/- The level behind `=`; none shows everything. -/
def levelOf
    (text : String) : Except DirectiveFault Level :=
  if text = "" then .ok .trace
  else
    match Level.ofText? text with
    | some level => .ok level
    | none => .error .level

/- A directive that is one word: a level, or else a target. -/
def ofWord
    (d : Directive)
    (word : String) : Directive :=
  match Level.ofText? word with
  | some level => { d with level, target := none }
  | none => { d with level := .trace, target := some word }

/- One more field: its name, and whether it asks for a value. -/
def addField
    (d : Directive)
    (text : String) : Except DirectiveFault Directive :=
  if text = "" then .error .form
  else
    match Text.splitOn '=' text with
    | name :: rest =>
      .ok { d with
        fields := d.fields ++ [name]
        fieldValues := d.fieldValues || !rest.isEmpty }
    | [] => .error .form

/- Whether a character may begin a directive that has no bracket. -/
def isFirstChar
    (c : Char) : Bool :=
  c = '-' || c = ':' || c = '_' || Text.isAlphanumeric c

/- Read the character at a position. -/
def step
    (text : List Char) :
    Directive × Place → Char × Nat → Except DirectiveFault (Directive × Place)
  | (d, .start), (c, i) =>
    if c = '[' then .ok (d, .span (i + 1))
    else if isFirstChar c then .ok (d, .word)
    else .error .form
  | (d, .word), (c, i) =>
    if c = '=' then .ok ({ d with target := some (part text 0 i) }, .level (i + 1))
    else if c = '[' then .ok ({ d with target := some (part text 0 i) }, .span (i + 1))
    else if c = ',' then .ok (ofWord d (String.ofList text), .finished)
    else .ok (d, .word)
  | (d, .span since), (c, i) =>
    if c = ']' then .ok ({ d with inSpan := true }, .target)
    else if c = '\x7b' then
      .ok ({ d with inSpan := decide (part text since i ≠ "") }, .field (i + 1))
    else .ok (d, .span since)
  | (d, .field since), (c, i) =>
    if c = '\x7d' then do return (← addField d (part text since i), .fieldsEnd)
    else if c = ',' then do return (← addField d (part text since i), .field (i + 1))
    else .ok (d, .field since)
  | (d, .fieldsEnd), (c, _) => if c = ']' then .ok (d, .target) else .error .form
  | (d, .target), (c, i) => if c = '=' then .ok (d, .level (i + 1)) else .error .form
  | (d, .level since), (c, i) =>
    if c = ',' then do return ({ d with level := ← levelOf (part text since i) }, .finished)
    else .ok (d, .level since)
  | (_, .finished), _ => .error .form

/- The directive that was read up to the end of a text. -/
def finish
    (text : List Char) : Directive × Place → Except DirectiveFault Directive
  | (d, .word) => .ok (ofWord d (String.ofList text))
  | (d, .level since) => do
    return { d with level := ← levelOf (part text since text.length) }
  | (d, .target) => .ok d
  | (d, .finished) => .ok d
  | _ => .error .form

/-
  Read a directive.  Blanks around it are not looked at, but they
  count where a part of the text is cut out.
-/
def parse
    (text : String) : Except DirectiveFault Directive := do
  let cs := text.toList
  let read ← (Text.trimBlank cs).zipIdx.foldlM (step cs) (({} : Directive), Place.start)
  finish cs read

end Directive

end Log

end ResourcePack
