import ResourcePack.Text.Lines

/-
  Paths as texts.

  Key definitions include:
    * `ResourcePack.Path.Step`
    * `ResourcePack.Path.steps`
    * `ResourcePack.Path.normal`
    * `ResourcePack.Path.directories`
    * `ResourcePack.Path.fileName?`
    * `ResourcePack.Path.join`
    * `ResourcePack.Path.parent?`

  A path is a text with components separated by `/`; a backslash
  is an ordinary character.  Empty components and `.` say nothing
  and `..` goes up.  Nothing here looks at a file system.
-/

------------------------------------------------------------
-- Components
------------------------------------------------------------

namespace ResourcePack

namespace Path

/- One step of a path. -/
inductive Step where
  | up
  | down (name : String)
  deriving DecidableEq

/- The step that a component stands for, if it stands for one. -/
def step?
    (component : String) : Option Step :=
  if component = "" || component = "." then none
  else if component = ".." then some .up
  else some (.down component)

/- The steps of a path. -/
def steps
    (path : String) : List Step :=
  (Text.splitOn '/' path).filterMap step?

/- Whether a path starts at the root. -/
def isAbsolute
    (path : String) : Bool :=
  path.toList.head? == some '/'

/- Follow a step without looking; going up from the top stays there. -/
def follow
    (position : List String) : Step → List String
  | .up => position.dropLast
  | .down name => position ++ [name]

/- Where steps lead from a position, without looking. -/
def walk
    (position : List String)
    (path : List Step) : List String :=
  path.foldl follow position

/- The names that remain of a path when every `..` is resolved. -/
def normal
    (path : String) : List String :=
  walk [] (steps path)

/- The directories above the last name of a path. -/
def directories
    (path : String) : List String :=
  (normal path).dropLast

/- The file name of a path; a path that ends in `..` has none. -/
def fileName?
    (path : String) : Option String :=
  match (steps path).getLast? with
  | some (.down name) => some name
  | _ => none

end Path

end ResourcePack

------------------------------------------------------------
-- Joining
------------------------------------------------------------

namespace ResourcePack

namespace Path

/-
  A name below a directory, as text.  An absolute name stands for
  itself, and nothing is put in front of a name by the empty
  directory.
-/
def join
    (directory name : String) : String :=
  if isAbsolute name || directory = "" then
    name
  else if directory.toList.getLast? == some '/' then
    directory ++ name
  else
    directory ++ "/" ++ name

/-
  The parts that a path is written with.  Empty parts are left out
  and so is `.`, unless a relative path begins with it.
-/
def parts
    (path : String) : List String :=
  let all := (Text.splitOn '/' path).filter (· ≠ "")
  match all with
  | "." :: rest =>
    if isAbsolute path then rest.filter (· ≠ ".") else "." :: rest.filter (· ≠ ".")
  | _ => all.filter (· ≠ ".")

/- The text of a path from its parts. -/
def ofParts
    (absolute : Bool)
    (parts : List String) : String :=
  (if absolute then "/" else "") ++ String.intercalate "/" parts

/-
  A path without its last part; the directory that a file is in.
  The root and the empty path have none.
-/
def parent?
    (path : String) : Option String :=
  match parts path with
  | [] => none
  | ps => some (ofParts (isAbsolute path) ps.dropLast)

/-
  A path that is not empty, and the paths that are left when parts
  are taken off its end one by one, until none is left.
-/
def withParents
    (path : String) : List String :=
  if path = "" then
    []
  else
    let ps := parts path
    path :: ((List.range ps.length).reverse.map fun n =>
      ofParts (isAbsolute path) (ps.take n)).filter (· ≠ "")

/- An absolute path from the names on it. -/
def ofNames : List String → String
  | [] => "/"
  | names => "/" ++ String.intercalate "/" names

end Path

end ResourcePack
