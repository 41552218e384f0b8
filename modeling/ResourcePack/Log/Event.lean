import ResourcePack.Json

/-
  What a run notes about its progress.

  Key definitions include:
    * `ResourcePack.Log.Level`
    * `ResourcePack.Log.Event`
    * `ResourcePack.Log.Event.level`
    * `ResourcePack.Log.Event.target`
    * `ResourcePack.Log.Event.message`
    * `ResourcePack.Log.Event.fields`

  An event is something that happened.  How important it is, where
  it belongs, and what is written of it follow from what it is.
-/

------------------------------------------------------------
-- Levels
------------------------------------------------------------

namespace ResourcePack

namespace Log

/- How much is logged, from nothing to everything. -/
inductive Level where
  | off
  | error
  | warn
  | info
  | debug
  | trace
  deriving DecidableEq, Inhabited

namespace Level

/- The position of a level; higher levels show more. -/
def rank : Level → Nat
  | off => 0
  | error => 1
  | warn => 2
  | info => 3
  | debug => 4
  | trace => 5

/- The name of a level. -/
def name : Level → String
  | off => "OFF"
  | error => "ERROR"
  | warn => "WARN"
  | info => "INFO"
  | debug => "DEBUG"
  | trace => "TRACE"

/- Whether events of a level are shown when so much is logged. -/
def shows
    (limit level : Level) : Bool :=
  level.rank ≤ limit.rank

end Level

end Log

end ResourcePack

------------------------------------------------------------
-- Events
------------------------------------------------------------

namespace ResourcePack

namespace Log

/- Something that happened in a run. -/
inductive Event where
  | started (resources : Nat)
  | resolved (resource path : String)
  | inserted (resource scope : String)
  | wrote (path : String) (bytes : Nat)
  | generated (resources : Nat) (asm header : String)
  | failed (message : String)
  deriving DecidableEq

/- The value of a field: a number, a text, or a text in quotes. -/
inductive FieldValue where
  | number (n : Nat)
  | plain (s : String)
  | quoted (s : String)

namespace Event

def level : Event → Level
  | started .. => .debug
  | resolved .. => .debug
  | inserted .. => .trace
  | wrote .. => .info
  | generated .. => .info
  | failed .. => .error

/- The part of the program that an event belongs to. -/
def target : Event → String
  | started .. => "genrsrc::tooling::cli"
  | resolved .. => "genrsrc::resource"
  | inserted .. => "genrsrc::bundle"
  | wrote .. => "genrsrc::emit"
  | generated .. => "genrsrc::generate"
  | failed .. => "genrsrc::generate"

def message : Event → String
  | started .. => "Starting generation"
  | resolved .. => "Resolved resource"
  | inserted .. => "Inserted resource"
  | wrote .. => "Wrote output"
  | generated .. => "Generated resources"
  | failed .. => "Resource generation failed"

def fields : Event → List (String × FieldValue)
  | started resources => [("resources", .number resources)]
  | resolved resource path => [("resource", .quoted resource), ("path", .plain path)]
  | inserted resource scope => [("resource", .plain resource), ("scope", .plain scope)]
  | wrote path bytes => [("path", .plain path), ("bytes", .number bytes)]
  | generated resources asm header =>
    [("resources", .number resources), ("asm", .plain asm), ("header", .plain header)]
  | failed message => [("error", .plain message)]

end Event

end Log

end ResourcePack
