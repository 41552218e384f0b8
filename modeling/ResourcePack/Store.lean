import ResourcePack.Error
import ResourcePack.Lookup
import ResourcePack.Path

/-
  File systems as data.

  Key definitions include:
    * `ResourcePack.Location`
    * `ResourcePack.Entry`
    * `ResourcePack.Store`
    * `ResourcePack.Store.get?`
    * `ResourcePack.Store.put`

  What was put at a location is there, and nothing else changes:
    * `ResourcePack.Store.get?_put_self`
    * `ResourcePack.Store.get?_put_of_ne`

  A store says what is at a location: a directory, a file with its
  bytes, a symbolic link, or a device.  A location is the list
  of names on the way from the root, without links and without any
  `..`, so that two locations are the same place exactly when they
  are equal.  One location is the one that relative paths start
  from.
-/

------------------------------------------------------------
-- Entries
------------------------------------------------------------

namespace ResourcePack

/- A place in a file system: the names on the way to it. -/
abbrev Location := List String

/- A device that takes everything, or one that has no room. -/
inductive Device where
  | null
  | full
  deriving DecidableEq

/- Bytes have one equality, whatever else is imported. -/
instance (priority := 2000) decidableEqBytes : DecidableEq ByteArray :=
  ByteArray.instDecidableEq

/- What can be at a location. -/
inductive Entry where
  | directory
  | file (contents : ByteArray)
  | link (target : String)
  | device (device : Device)
  deriving DecidableEq

namespace Entry

/- Whether an entry is a regular file. -/
def isFile : Entry → Bool
  | file _ => true
  | _ => false

/- Whether an entry is a directory. -/
def isDirectory : Entry → Bool
  | directory => true
  | _ => false

/- The size that the file system reports, in bytes. -/
def size : Entry → Nat
  | directory => 4096
  | file contents => contents.size
  | link target => target.utf8ByteSize
  | device _ => 0

/- What reading gives: the text that the bytes of a file are. -/
def text : Entry → Except FileFault String
  | directory => .error .isDirectory
  | file contents =>
    match String.fromUTF8? contents with
    | some text => .ok text
    | none => .error .notText
  | _ => .ok ""

end Entry

end ResourcePack

------------------------------------------------------------
-- Stores
------------------------------------------------------------

namespace ResourcePack

/- The state of a file system, and where relative paths start. -/
structure Store where
  entries : List (Location × Entry)
  here : Location
  deriving DecidableEq

namespace Store

/- What is at a location; the root is always a directory. -/
def get?
    (s : Store)
    (l : Location) : Option Entry :=
  if l = [] then some .directory else s.entries.lookup l

/- Put an entry at a location, in place of what is there. -/
def put
    (s : Store)
    (l : Location)
    (e : Entry) : Store :=
  { s with entries := (l, e) :: s.entries.filter fun p => p.1 ≠ l }

/- Leave nothing at a location. -/
def erase
    (s : Store)
    (l : Location) : Store :=
  { s with entries := s.entries.filter fun p => p.1 ≠ l }

/- The root cannot be replaced. -/
theorem get?_root
    (s : Store) :
    s.get? [] = some .directory := by
  simp [get?]

/- What was put at a location is there. -/
theorem get?_put_self
    (s : Store)
    {l : Location}
    (e : Entry)
    (hRoot : l ≠ []) :
    (s.put l e).get? l = some e := by
  simp [get?, put, hRoot]

/- Leaving out the entries of one location leaves all others. -/
theorem lookup_filter_ne
    {l l' : Location}
    (entries : List (Location × Entry))
    (hNe : l' ≠ l) :
    (entries.filter fun p => p.1 ≠ l).lookup l' = entries.lookup l' := by
  rw [lookup_filter entries fun place => decide (place ≠ l),
    if_pos (decide_eq_true hNe)]

/- Putting an entry changes no other location. -/
theorem get?_put_of_ne
    (s : Store)
    {l l' : Location}
    (e : Entry)
    (hNe : l' ≠ l) :
    (s.put l e).get? l' = s.get? l' := by
  have hHead : (l' == l) = false := by
    simpa using hNe
  unfold get? put
  rw [List.lookup_cons, hHead, lookup_filter_ne s.entries hNe]

/- Whether there is a directory at a location. -/
def hasDirectory
    (s : Store)
    (l : Location) : Bool :=
  match s.get? l with
  | some e => e.isDirectory
  | none => false

/- A store with the usual devices and an empty directory to work in. -/
def initial
    (here : Location) : Store :=
  { entries := [(here, .directory), (["dev"], .directory),
      (["dev", "null"], .device .null), (["dev", "full"], .device .full)]
    here }

end Store

end ResourcePack
