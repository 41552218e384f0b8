import ResourcePack.Config.Decode
import ResourcePack.Settings.Environment
import ResourcePack.Settings.KeyPath
import ResourcePack.Toml.Document
import ResourcePack.Workspace

/-
  Loading a configuration.

  Key definitions include:
    * `ResourcePack.Config.layered`
    * `ResourcePack.Config.fileSettings`
    * `ResourcePack.Config.load`

  The settings of a file come first, if there is one, and those of
  the environment go over them, key by key.
-/

namespace ResourcePack

namespace Config

open Settings (Value)

/- The configuration that the settings of a file and the environment make. -/
def layered
    (file : List (String × Value))
    (env : Environment) : Except Error Config :=
  ofSettings ((Value.empty.setAll file).setAll env.settings)

variable {m : Type → Type} [Monad m] [Workspace m]

/- The settings of a file, which has to be a regular file. -/
def fileSettings
    (path : String) : ExceptT Error m (List (String × Value)) := do
  if !(← (Workspace.isFile path : m Bool)) then
    throw (.config (.fileMissing path))
  match ← (Workspace.read path : m _) with
  | .error _ => throw (.config (.fileMalformed path))
  | .ok text =>
    match Toml.parse? text with
    | none => throw (.config (.fileMalformed path))
    | some fields => return fields

/- Load the configuration, from a file if one is named. -/
def load
    (env : Environment)
    (file : Option String) : ExceptT Error m Config := do
  let fields ← match file with
    | some path => fileSettings path
    | none => pure []
  MonadExcept.ofExcept (layered fields env)

end Config

end ResourcePack
