import ResourcePack.Bundle
import ResourcePack.Workspace

/-
  From names to resources.

  Key definitions include:
    * `ResourcePack.Resource.describe`
    * `ResourcePack.Resource.find`
    * `ResourcePack.Resource.resolve`
    * `ResourcePack.Resource.resolveAll`

  A name is looked for in the search directories, in order, and
  the first regular file of that name is the resource.  Only the
  size of a file is looked at, never its contents.
-/

namespace ResourcePack

namespace Resource

variable {m : Type → Type} [Monad m] [Workspace m] [Journal m]

/-
  Describe the file at a path as the resource of a name.  The file
  has to exist before the name is looked at.
-/
def describe
    (symbolPrefix name path : String)
    (policy : Policy) : ExceptT Error m Resource := do
  match ← (Workspace.size path : m _) with
  | .error .notFound => throw (.resourceNotFound name [])
  | .error fault => throw (.file path fault)
  | .ok size =>
    match Path.fileName? name with
    | none => throw (.invalidIdentifier name .noFileName)
    | some fileName =>
      let symbol ← MonadExcept.ofExcept (Identifier.symbol symbolPrefix name policy)
      let ident ← MonadExcept.ofExcept (Identifier.ofFileName fileName policy)
      match ← (Workspace.canonical path : m _) with
      | .error fault => throw (.file path fault)
      | .ok canonical => return ⟨symbolPrefix, name, canonical, size, symbol, ident⟩

/- The first directory in which a name is a regular file, if any. -/
def firstFile?
    (name : String) : List String → m (Option String)
  | [] => return none
  | directory :: rest => do
    let path := Path.join directory name
    if ← Workspace.isFile path then
      return some path
    else
      firstFile? name rest

/- The path of a name in the first directory that has it. -/
def find
    (name : String)
    (directories : List String) : ExceptT Error m String := do
  match ← (firstFile? name directories : m _) with
  | none => throw (.resourceNotFound name directories)
  | some path =>
    (Journal.note (.resolved name path) : m Unit)
    return path

/- Find a name and describe it. -/
def resolve
    (symbolPrefix : String)
    (directories : List String)
    (policy : Policy)
    (name : String) : ExceptT Error m Resource := do
  let path ← find name directories
  describe symbolPrefix name path policy

/- Resolve names in order, up to the first that fails. -/
def resolveAll
    (symbolPrefix : String)
    (directories : List String)
    (policy : Policy) : List String → ExceptT Error m (List Resource)
  | [] => return []
  | name :: rest => do
    let r ← resolve symbolPrefix directories policy name
    let others ← resolveAll symbolPrefix directories policy rest
    return r :: others

end Resource

end ResourcePack
