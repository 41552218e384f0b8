import ResourcePack.Store.Lookup

/-
  Reading and changing a store by paths.

  Key definitions include:
    * `ResourcePack.Store.isFile`
    * `ResourcePack.Store.size`
    * `ResourcePack.Store.canonical`
    * `ResourcePack.Store.read`
    * `ResourcePack.Store.save`
    * `ResourcePack.Store.write`
    * `ResourcePack.Store.append`
    * `ResourcePack.Store.makeDirectories`

  An operation that changes a store answers with the fault, if
  there is one, and the store after it: what was done before a
  fault stays done.
-/

------------------------------------------------------------
-- Asking
------------------------------------------------------------

namespace ResourcePack

namespace Store

/- Whether a path leads to a regular file. -/
def isFile
    (s : Store)
    (path : String) : Bool :=
  match s.find path with
  | .ok (_, e) => e.isFile
  | .error _ => false

/- Whether a path leads to a directory. -/
def isDirectory
    (s : Store)
    (path : String) : Bool :=
  match s.find path with
  | .ok (_, e) => e.isDirectory
  | .error _ => false

/- The size of what a path leads to. -/
def size
    (s : Store)
    (path : String) : Except FileFault Nat :=
  (s.find path).map fun found => found.2.size

/- The absolute path without links of what a path leads to. -/
def canonical
    (s : Store)
    (path : String) : Except FileFault String :=
  (s.find path).map fun found => Path.ofNames found.1

/- The text of the file that a path leads to. -/
def read
    (s : Store)
    (path : String) : Except FileFault String := do
  (← s.find path).2.text

end Store

end ResourcePack

------------------------------------------------------------
-- Writing Files
------------------------------------------------------------

namespace ResourcePack

namespace Store

/-
  Open what a path leads to for writing, with a new empty file if
  there is nothing.  The new contents are made from the old, and a
  device is given what is added.
-/
def update
    (s : Store)
    (path : String)
    (added : ByteArray)
    (contents : ByteArray → ByteArray) : Except FileFault Unit × Store :=
  match s.locate .creating path with
  | .error fault => (.error fault, s)
  | .ok l =>
    match s.get? l with
    | some .directory => (.error .isDirectory, s)
    | some (.device .null) => (.ok (), s)
    | some (.device .full) => (if added = .empty then .ok () else .error .noSpace, s)
    | some (.file old) => (.ok (), s.put l (.file (contents old)))
    | _ => (.ok (), s.put l (.file (contents .empty)))

/- Write bytes to a file, in place of what it holds. -/
def save
    (s : Store)
    (path : String)
    (contents : ByteArray) : Except FileFault Unit × Store :=
  s.update path contents fun _ => contents

/- Write a text to a file, in place of what it holds. -/
def write
    (s : Store)
    (path text : String) : Except FileFault Unit × Store :=
  s.save path text.toByteArray

/- Write a text at the end of a file. -/
def append
    (s : Store)
    (path text : String) : Except FileFault Unit × Store :=
  s.update path text.toByteArray (· ++ text.toByteArray)

end Store

end ResourcePack

------------------------------------------------------------
-- Directories and Links
------------------------------------------------------------

namespace ResourcePack

namespace Store

/-
  The free location at the end of a path, where a directory or a
  link can be made: a last name that is not there yet, in a
  directory that is.  A link at the end is not followed.
-/
def vacancy
    (s : Store)
    (path : String) : Except FileFault Location := do
  checkPath path
  let names := (segments path).filter (· ≠ "")
  match names.getLast? with
  | none => throw .exists
  | some name =>
    let above ← s.walk .existing maxLinks (start path s.here) (names.dropLast ++ [""])
    if name = "." || name = ".." then
      throw .exists
    if maxNameLength < name.utf8ByteSize then
      throw .nameTooLong
    if (s.get? (above ++ [name])).isSome then
      throw .exists
    return above ++ [name]

/- Make one directory. -/
def makeDirectory
    (s : Store)
    (path : String) : Except FileFault Unit × Store :=
  match s.vacancy path with
  | .error fault => (.error fault, s)
  | .ok l => (.ok (), s.put l .directory)

/-
  Make a directory that may be there already, given the directories
  it lies in, the nearest first.  Those are made only when they are
  missing.
-/
def makeAll
    (s : Store)
    (path : String) : List String → Except FileFault Unit × Store
  | [] => settle (s.makeDirectory path)
  | above :: rest =>
    match s.makeDirectory path with
    | (.error .notFound, _) =>
      match s.makeAll above rest with
      | (.ok (), s') => settle (s'.makeDirectory path)
      | failed => failed
    | done => settle done
where
  settle : Except FileFault Unit × Store → Except FileFault Unit × Store
    | (.ok (), s') => (.ok (), s')
    | (.error fault, s') => (if s'.isDirectory path then .ok () else .error fault, s')

/- Make a directory and those it lies in, as far as they are missing. -/
def makeDirectories
    (s : Store)
    (path : String) : Except FileFault Unit × Store :=
  match Path.withParents path with
  | [] => (.ok (), s)
  | path :: above => s.makeAll path above

/- Make a symbolic link, which cannot have a slash at its end. -/
def makeLink
    (s : Store)
    (path target : String) : Except FileFault Unit × Store :=
  match s.vacancy path with
  | .error fault => (.error fault, s)
  | .ok l =>
    if path.toList.getLast? == some '/' then (.error .notFound, s)
    else (.ok (), s.put l (.link target))

/- Remove a file or a link; a link at the end is not followed. -/
def remove
    (s : Store)
    (path : String) : Except FileFault Unit × Store :=
  match s.walk .existing maxLinks (start path s.here) ((segments path).dropLast ++ [""]) with
  | .error fault => (.error fault, s)
  | .ok above =>
    let l := above ++ ((segments path).getLast?.getD "" :: [])
    match s.get? l with
    | none => (.error .notFound, s)
    | some .directory => (.error .isDirectory, s)
    | some _ => (.ok (), s.erase l)

end Store

end ResourcePack
