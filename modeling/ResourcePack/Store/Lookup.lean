import ResourcePack.Store

/-
  From paths to locations.

  Key definitions include:
    * `ResourcePack.Store.segments`
    * `ResourcePack.Store.Purpose`
    * `ResourcePack.Store.walk`
    * `ResourcePack.Store.locate`

  A path is followed name by name.  Every name but the last has to
  lead to a directory, and links are replaced by their targets, of
  which a path may pass forty.  The last name may be missing, so
  that a new file can be put there; a slash at the end asks for a
  directory.
-/

------------------------------------------------------------
-- Limits
------------------------------------------------------------

namespace ResourcePack

namespace Store

/- The longest name, in bytes. -/
def maxNameLength : Nat :=
  255

/- The longest path, in bytes. -/
def maxPathLength : Nat :=
  4095

/- How many links one path may pass. -/
def maxLinks : Nat :=
  40

/-
  The names of a path.  A slash at the end is kept as one empty
  name after the others.
-/
def segments
    (path : String) : List String :=
  let names := (Text.splitOn '/' path).filter (· ≠ "")
  if names ≠ [] && path.toList.getLast? == some '/' then names ++ [""] else names

/- What a path is looked up for. -/
inductive Purpose where
  | existing
  | creating
  deriving DecidableEq

end Store

end ResourcePack

------------------------------------------------------------
-- Walking
------------------------------------------------------------

namespace ResourcePack

namespace Store

/- Where the names of a path start from. -/
def start
    (path : String)
    (relativeTo : Location) : Location :=
  if Path.isAbsolute path then [] else relativeTo

/-
  Follow names from a location.  What a link leads to is asked of
  `follow`, which is given a location and the names that are left.
-/
def walkWith
    (s : Store)
    (purpose : Purpose)
    (follow : Location → List String → Except FileFault Location)
    (l : Location) : List String → Except FileFault Location
  | [] => .ok l
  | name :: rest =>
    if !s.hasDirectory l then
      .error .notDirectory
    else if name = "" || name = "." then
      s.walkWith purpose follow l rest
    else if name = ".." then
      s.walkWith purpose follow l.dropLast rest
    else if purpose = .creating && rest = [""] then
      .error .isDirectory
    else if maxNameLength < name.utf8ByteSize then
      .error .nameTooLong
    else
      match s.get? (l ++ [name]) with
      | some (.link target) => follow (start target l) (segments target ++ rest)
      | some _ => s.walkWith purpose follow (l ++ [name]) rest
      | none => if rest.isEmpty then .ok (l ++ [name]) else .error .notFound

/- Follow names from a location, through so many links at most. -/
def walk
    (s : Store)
    (purpose : Purpose) : Nat → Location → List String → Except FileFault Location
  | 0 => s.walkWith purpose fun _ _ => .error .tooManyLinks
  | links + 1 => s.walkWith purpose (s.walk purpose links)

/- Refuse a path that no file system takes. -/
def checkPath
    (path : String) : Except FileFault Unit :=
  if path.toList.contains '\x00' then .error .nulInName
  else if path = "" then .error .notFound
  else if maxPathLength < path.utf8ByteSize then .error .nameTooLong
  else .ok ()

/-
  The location that a path leads to.  There may be nothing at it,
  but there is a directory above it.
-/
def locate
    (s : Store)
    (purpose : Purpose)
    (path : String) : Except FileFault Location := do
  checkPath path
  s.walk purpose maxLinks (start path s.here) (segments path)

/- The location of what is at the end of a path. -/
def find
    (s : Store)
    (path : String) : Except FileFault (Location × Entry) := do
  let l ← s.locate .existing path
  match s.get? l with
  | some e => return (l, e)
  | none => throw .notFound

end Store

end ResourcePack
