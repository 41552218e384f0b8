import ResourcePack.Directory
import ResourcePack.Identifier
import ResourcePack.Path

/-
  The resources of one run, and the tree of namespaces they make.

  Key definitions include:
    * `ResourcePack.Resource`
    * `ResourcePack.Bundle`
    * `ResourcePack.Bundle.position?`
    * `ResourcePack.Bundle.scopeOf`
    * `ResourcePack.Bundle.clash?`
    * `ResourcePack.Bundle.insert`
    * `ResourcePack.Bundle.ofResources`

  A resource is declared twice: by its symbol, which is global, and
  by its identifier inside the namespace that its directories name.
  A bundle keeps the resources in the order of insertion and
  refuses one that would declare a name a second time.  It finds
  a taken symbol by its position.  The name `externals` at the root
  is taken by the block of symbols.
-/

------------------------------------------------------------
-- Resources
------------------------------------------------------------

namespace ResourcePack

/- A file that is embedded, with the names it is given. -/
structure Resource where
  symbolPrefix : String
  name : String
  path : String
  size : Nat
  symbol : String
  ident : String
  deriving DecidableEq, Inhabited

/- The namespace that holds the symbols. -/
def externalsName : String :=
  "externals"

/-
  Resources in order of insertion, their namespaces, and the
  position of every symbol, the last one first.
-/
structure Bundle where
  resources : List Resource
  tree : Directory
  symbols : List (String × Nat)

namespace Bundle

/- The bundle of no resources. -/
def empty : Bundle :=
  ⟨[], Directory.root, []⟩

instance : Inhabited Bundle :=
  ⟨empty⟩

/- The number of resources. -/
def size
    (b : Bundle) : Nat :=
  b.resources.length

/- The position of the resource that has a symbol. -/
def position?
    (b : Bundle)
    (symbol : String) : Option Nat :=
  b.symbols.lookup symbol

/- The resources attached to a directory of the tree, in order. -/
def attached
    (b : Bundle)
    (d : Directory) : List Resource :=
  d.resources.filterMap fun i => b.resources[i]?

/- The resource of a directory that has an identifier. -/
def declared?
    (b : Bundle)
    (d : Directory)
    (ident : String) : Option Resource :=
  (b.attached d).find? fun r => r.ident = ident

end Bundle

end ResourcePack

------------------------------------------------------------
-- Scopes and Clashes
------------------------------------------------------------

namespace ResourcePack

namespace Bundle

/- The namespaces that the directories of a name stand for. -/
def scopeOf
    (name : String)
    (policy : Policy) : Except Error (List String) :=
  (Path.directories name).mapM fun component => Identifier.ofDirectory component policy

/- A name that is declared already: where, which, and by whom. -/
structure Clash where
  scope : List String
  ident : String
  holder : Declarer
  deriving DecidableEq

/- The clash with the block of symbols. -/
def externalsClash : Clash :=
  ⟨[], externalsName, .scope externalsName⟩

/-
  The clash of an identifier that is to be declared in a directory
  with a resource or a namespace there.
-/
def clashIn
    (b : Bundle)
    (scope : List String)
    (d : Directory)
    (ident : String) : Option Clash :=
  match b.declared? d ident with
  | some holder => some ⟨scope, ident, .resource holder.name⟩
  | none =>
    match d.child? ident with
    | some _ => some ⟨scope, ident, .scope ident⟩
    | none => none

/-
  The first clash on the way from a directory along a path of
  namespaces to an identifier.  On the way only resources are in
  the way of a namespace; what does not exist yet holds nothing.
-/
def clashBelow
    (b : Bundle)
    (scope : List String)
    (d : Directory)
    (ident : String) : List String → Option Clash
  | [] => b.clashIn scope d ident
  | ns :: path =>
    match b.declared? d ns with
    | some holder => some ⟨scope, ns, .resource holder.name⟩
    | none =>
      match d.child? ns with
      | some c => b.clashBelow (scope ++ [ns]) c ident path
      | none => none

/- The first clash of a declaration at a path with the bundle. -/
def clash?
    (b : Bundle)
    (path : List String)
    (ident : String) : Option Clash :=
  if (path ++ [ident]).head? = some externalsName then
    some externalsClash
  else
    b.clashBelow [] b.tree ident path

end Bundle

end ResourcePack

------------------------------------------------------------
-- Insertion
------------------------------------------------------------

namespace ResourcePack

namespace Bundle

/-
  Insert a resource at the end.  A symbol that is taken is reported
  first, then a directory that gives no namespace, then a clash of
  declarations.
-/
def insert
    (b : Bundle)
    (r : Resource)
    (policy : Policy) : Except Error Bundle :=
  match b.position? r.symbol with
  | some i => .error (.duplicateSymbol r.symbol b.resources[i]!.name r.name)
  | none =>
    match scopeOf r.name policy with
    | .error e => .error e
    | .ok scope =>
      match b.clash? scope r.ident with
      | some clash =>
        .error (.duplicateDeclaration clash.scope clash.ident clash.holder r.name)
      | none =>
        .ok ⟨b.resources ++ [r], b.tree.attach scope b.size, (r.symbol, b.size) :: b.symbols⟩

/- Insert resources one after the other. -/
def insertAll
    (b : Bundle)
    (policy : Policy) : List Resource → Except Error Bundle
  | [] => .ok b
  | r :: rest =>
    match b.insert r policy with
    | .ok b' => b'.insertAll policy rest
    | .error e => .error e

/- Inserting a list and then another is inserting both. -/
theorem insertAll_append
    (b : Bundle)
    (policy : Policy)
    (rs rs' : List Resource) :
    b.insertAll policy (rs ++ rs') =
      (b.insertAll policy rs).bind fun b' => b'.insertAll policy rs' := by
  induction rs generalizing b with
  | nil => rfl
  | cons r rest ih =>
    simp only [List.cons_append, insertAll]
    cases b.insert r policy with
    | error e => rfl
    | ok b' => exact ih b'

/- The bundle of a list of resources. -/
def ofResources
    (resources : List Resource)
    (policy : Policy) : Except Error Bundle :=
  empty.insertAll policy resources

end Bundle

end ResourcePack
