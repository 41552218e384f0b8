import ResourcePack.Log.Event
import ResourcePack.Text.Quoted

/-
  The lines of a log.

  Key definitions include:
    * `ResourcePack.Log.Style`
    * `ResourcePack.Log.plainLine`
    * `ResourcePack.Log.coloredLine`
    * `ResourcePack.Log.jsonLine`
    * `ResourcePack.Log.line`

  An event is one line: the time, the level, the target, the
  message and the fields.  It is plain text, text in colours, or a
  JSON object.
-/

------------------------------------------------------------
-- Texts
------------------------------------------------------------

namespace ResourcePack

namespace Log

/- How lines are written. -/
inductive Style where
  | text (color : Bool)
  | json
  deriving DecidableEq

/- The value of a field in a text. -/
def FieldValue.text : FieldValue → String
  | number n => toString n
  | plain s => s
  | quoted s => Text.quotedText s

/- The name of a level, flush right in five columns. -/
def paddedName
    (level : Level) : String :=
  Text.spaces (5 - level.name.length) ++ level.name

/- An event as plain text. -/
def plainLine
    (stamp : String)
    (e : Event) : String :=
  stamp ++ " " ++ paddedName e.level ++ " " ++ e.target ++ ": " ++ e.message ++
    String.join (e.fields.map fun f => " " ++ f.1 ++ "=" ++ f.2.text)

/- A text in a style of the terminal. -/
def styled
    (code : Nat)
    (text : String) : String :=
  "\x1b[" ++ toString code ++ "m" ++ text ++ "\x1b[0m"

def dim : Nat :=
  2

def italic : Nat :=
  3

/- The colour of a level. -/
def Level.color : Level → Nat
  | off => 0
  | error => 31
  | warn => 33
  | info => 32
  | debug => 34
  | trace => 35

/- An event as text in colours. -/
def coloredLine
    (stamp : String)
    (e : Event) : String :=
  styled dim stamp ++ " " ++ styled e.level.color (paddedName e.level) ++ " " ++
    styled dim e.target ++ styled dim ":" ++ " " ++ e.message ++
    String.join (e.fields.map fun f =>
      " " ++ styled italic f.1 ++ styled dim "=" ++ f.2.text)

end Log

end ResourcePack

------------------------------------------------------------
-- Objects
------------------------------------------------------------

namespace ResourcePack

namespace Log

/- The value of a field in an object. -/
def FieldValue.toJson : FieldValue → Json
  | number n => .int n
  | plain s => .text s
  | quoted s => .text s

/- The object of an event. -/
def Event.toJson
    (stamp : String)
    (e : Event) : Json :=
  .object [
    ("timestamp", .text stamp),
    ("level", .text e.level.name),
    ("fields", .object (("message", .text e.message) ::
      e.fields.map fun f => (f.1, f.2.toJson))),
    ("target", .text e.target)]

/- An event as a JSON object. -/
def jsonLine
    (stamp : String)
    (e : Event) : String :=
  (e.toJson stamp).compact

/- The line of an event, with its end. -/
def line
    (style : Style)
    (stamp : String)
    (e : Event) : String :=
  (match style with
    | .text false => plainLine stamp e
    | .text true => coloredLine stamp e
    | .json => jsonLine stamp e) ++ "\n"

end Log

end ResourcePack
