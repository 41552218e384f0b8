/-
  The tree of namespaces.

  Key definitions include:
    * `ResourcePack.Directory`
    * `ResourcePack.Directory.root`
    * `ResourcePack.Directory.child?`
    * `ResourcePack.Directory.find?`
    * `ResourcePack.Directory.alterAt`
    * `ResourcePack.Directory.touch`
    * `ResourcePack.Directory.attach`
    * `ResourcePack.Directory.count`
    * `ResourcePack.Directory.depth`

  A directory has a name, directories below it in the order in
  which they were first needed, and the indices of the resources
  attached to it.  A path of names leads from a directory to one
  below it; names are looked up from the first child on.
-/

------------------------------------------------------------
-- Trees
------------------------------------------------------------

namespace ResourcePack

/- A directory with everything below it. -/
structure Directory where
  name : String
  children : List Directory
  resources : List Nat

namespace Directory

/- A directory with nothing in it. -/
def empty
    (name : String) : Directory :=
  ⟨name, [], []⟩

/- The directory at the top, which has no name. -/
def root : Directory :=
  empty ""

instance : Inhabited Directory :=
  ⟨root⟩

/- The first child of a name. -/
def child?
    (d : Directory)
    (name : String) : Option Directory :=
  d.children.find? fun c => c.name = name

/- The directory that a path leads to. -/
def find?
    (d : Directory) : List String → Option Directory
  | [] => some d
  | name :: path =>
    match d.child? name with
    | some c => c.find? path
    | none => none

end Directory

end ResourcePack

------------------------------------------------------------
-- Growing
------------------------------------------------------------

namespace ResourcePack

namespace Directory

/-
  Change the first child of a name, or a new one at the end if
  there is none.
-/
def alterChild
    (name : String)
    (f : Directory → Directory) : List Directory → List Directory
  | [] => [f (empty name)]
  | c :: rest =>
    if c.name = name then f c :: rest else c :: alterChild name f rest

/- Change the directory at a path, making what is missing on it. -/
def alterAt
    (f : Directory → Directory) : List String → Directory → Directory
  | [], d => f d
  | name :: path, d =>
    { d with children := alterChild name (alterAt f path) d.children }

/- Make the directories on a path. -/
def touch
    (d : Directory)
    (path : List String) : Directory :=
  alterAt id path d

/- Attach a resource to this directory, after those it has. -/
def push
    (index : Nat)
    (d : Directory) : Directory :=
  { d with resources := d.resources ++ [index] }

/- Attach a resource to the directory at a path. -/
def attach
    (d : Directory)
    (path : List String)
    (index : Nat) : Directory :=
  alterAt (push index) path d

end Directory

end ResourcePack

------------------------------------------------------------
-- Measures and Equality
------------------------------------------------------------

namespace ResourcePack

namespace Directory

mutual

/- The number of resources attached here and below. -/
def count : Directory → Nat
  | ⟨_, children, resources⟩ => resources.length + countAll children

/- The number of resources attached to a list of directories. -/
def countAll : List Directory → Nat
  | [] => 0
  | d :: rest => d.count + countAll rest

end

mutual

/- The length of the longest path below a directory. -/
def depth : Directory → Nat
  | ⟨_, children, _⟩ => depthAll children

/- The length of the longest path into a list of directories. -/
def depthAll : List Directory → Nat
  | [] => 0
  | d :: rest => max (d.depth + 1) (depthAll rest)

end

mutual

/- Whether two directories are the same in every part. -/
def same : Directory → Directory → Bool
  | ⟨n, cs, rs⟩, ⟨n', cs', rs'⟩ => n = n' && rs = rs' && sameAll cs cs'

/- Whether two lists of directories are the same. -/
def sameAll : List Directory → List Directory → Bool
  | [], [] => true
  | c :: cs, c' :: cs' => c.same c' && sameAll cs cs'
  | _, _ => false

end

instance : BEq Directory :=
  ⟨same⟩

end Directory

end ResourcePack
