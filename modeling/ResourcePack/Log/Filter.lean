import ResourcePack.Log.Directive

/-
  Log filters.

  Key definitions include:
    * `ResourcePack.Log.Filter`
    * `ResourcePack.Log.Filter.parse?`
    * `ResourcePack.Log.Filter.parseLossy`
    * `ResourcePack.Log.Filter.add`
    * `ResourcePack.Log.Filter.shows`

  A filter is a list of directives.  Of those that apply to an
  event the most specific one decides: the one with the longest
  target, and then with the most fields.
-/

------------------------------------------------------------
-- Filters
------------------------------------------------------------

namespace ResourcePack

namespace Log

/- Directives, in the order in which they were given. -/
structure Filter where
  directives : List Directive
  deriving DecidableEq

namespace Filter

/- The filter that shows nothing. -/
def off : Filter :=
  ⟨[]⟩

/- The filter of one level for everything. -/
def ofLevel
    (level : Level) : Filter :=
  ⟨[{ level }]⟩

/- A filter with one more directive. -/
def add
    (f : Filter)
    (d : Directive) : Filter :=
  ⟨f.directives ++ [d]⟩

end Filter

end Log

end ResourcePack

------------------------------------------------------------
-- Reading Filters
------------------------------------------------------------

namespace ResourcePack

namespace Log

namespace Filter

/- The texts of the directives in the text of a filter. -/
def parts
    (text : String) : List String :=
  (Text.splitOn ',' text).filter (· ≠ "")

/- The filter of a text in which every directive can be read. -/
def parse?
    (text : String) : Option Filter :=
  ((parts text).mapM fun part => (Directive.parse part).toOption).map Filter.mk

/-
  The filter of the directives in a text that can be read, and the
  others with their faults.  Errors are shown if none is left.
-/
def parseLossy
    (text : String) : Filter × List (String × DirectiveFault) :=
  let read := (parts text).map fun part => (part, Directive.parse part)
  let directives := read.filterMap fun r => r.2.toOption
  let faults := read.filterMap fun r =>
    match r.2 with
    | .error fault => some (r.1, fault)
    | .ok _ => none
  (if directives.isEmpty then ofLevel .error else ⟨directives⟩, faults)

end Filter

end Log

end ResourcePack

------------------------------------------------------------
-- Deciding
------------------------------------------------------------

namespace ResourcePack

namespace Log

namespace Filter

/- How long the target of a directive is; no target is the shortest. -/
def targetSize
    (d : Directive) : Nat :=
  match d.target with
  | some target => target.utf8ByteSize + 1
  | none => 0

/- Whether lists of names are in the order of dictionaries. -/
def namesBefore : List String → List String → Bool
  | _, [] => false
  | [], _ :: _ => true
  | a :: as, b :: bs => decide (a < b) || (a = b && namesBefore as bs)

/-
  Whether a directive goes before another one that was given
  earlier and applies to the same event.
-/
def outranks
    (later earlier : Directive) : Bool :=
  if targetSize later ≠ targetSize earlier then
    targetSize earlier < targetSize later
  else if later.fields.length ≠ earlier.fields.length then
    earlier.fields.length < later.fields.length
  else
    !namesBefore later.fields earlier.fields

/- The directive that decides about an event. -/
def deciding?
    (f : Filter)
    (e : Event) : Option Directive :=
  (f.directives.filter fun d => d.concernsEvents && d.appliesTo e).foldl
    (fun best d =>
      match best with
      | some b => if outranks d b then some d else some b
      | none => some d)
    none

/- Whether an event is shown. -/
def shows
    (f : Filter)
    (e : Event) : Bool :=
  match f.deciding? e with
  | some d => d.level.shows e.level
  | none => false

end Filter

end Log

end ResourcePack
