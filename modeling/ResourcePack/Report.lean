import ResourcePack.Json
import ResourcePack.Report.Table

/-
  What a run tells about its result.

  Key definitions include:
    * `ResourcePack.Report`
    * `ResourcePack.ReportFormat`
    * `ResourcePack.Report.heading`
    * `ResourcePack.Report.text`
    * `ResourcePack.Report.toJson`
    * `ResourcePack.Report.json`

  A report names the two files that were written and the resources
  in them.  As a text it has a heading, three lines, and a table if
  there are resources; as JSON it is one object.
-/

namespace ResourcePack

/- What is reported of one resource. -/
structure ReportEntry where
  name : String
  symbol : String
  size : Nat
  path : String
  deriving DecidableEq, Inhabited

/- The result of a run. -/
structure Report where
  asm : String
  header : String
  resources : List ReportEntry
  deriving DecidableEq, Inhabited

/- How a report is shown. -/
inductive ReportFormat where
  | text
  | json
  | none
  deriving DecidableEq, Inhabited

namespace Report

/- A heading, underlined and bold where colour is wanted. -/
def heading
    (title : String)
    (color : Bool) : String :=
  if color then
    "\x1b[4m\x1b[1m" ++ title ++ "\x1b[0m\x1b[0m"
  else
    title

/- The table of the resources. -/
def table
    (entries : List ReportEntry) : List String :=
  Table.lines ["Resource", "Symbol", "Size"]
    (entries.map fun e => [e.name, e.symbol, toString e.size])

/- The lines of a report. -/
def lines
    (r : Report)
    (color : Bool) : List String :=
  [heading "Generated" color, "", "  Assembly: " ++ r.asm, "  Header: " ++ r.header,
    "  Resources: " ++ toString r.resources.length] ++
    (if r.resources.isEmpty then [] else "" :: table r.resources)

/- A report as a text. -/
def text
    (r : Report)
    (color : Bool) : String :=
  Text.unlines (lines r color)

def entryToJson
    (e : ReportEntry) : Json :=
  .object [
    ("name", .text e.name),
    ("symbol", .text e.symbol),
    ("size", .int e.size),
    ("path", .text e.path)]

/- The object of a report. -/
def toJson
    (r : Report) : Json :=
  .object [
    ("asm", .text r.asm),
    ("header", .text r.header),
    ("resources", .list (r.resources.map entryToJson))]

/-
  A report as JSON.  Every part of it is a text or a number, so there
  is none that cannot be shown, and nothing to fall back on.
-/
def json
    (r : Report) : String :=
  Json.pretty (toJson r)

end Report

end ResourcePack
