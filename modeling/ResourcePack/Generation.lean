import ResourcePack.Assembly
import ResourcePack.CommandLine.Invocation
import ResourcePack.Report
import ResourcePack.Resolution

/-
  A whole run: from a request and a configuration to two files.

  Key definitions include:
    * `ResourcePack.Generation.bundle`
    * `ResourcePack.Generation.write`
    * `ResourcePack.Generation.run`
    * `ResourcePack.Generation.generate`

  First the configuration is checked, then every resource is
  resolved and inserted; only then is the assembly file written,
  and after it the header.  The first failure ends the run.
-/

namespace ResourcePack

namespace Generation

variable {m : Type → Type} [Monad m] [Workspace m] [Journal m]

/- Note an event in the course of a run. -/
def note
    (e : Log.Event) : ExceptT Error m Unit :=
  ExceptT.lift (Journal.note e)

/- Insert resources one after the other, and note each of them. -/
def insertAll
    (policy : Policy)
    (b : Bundle) : List Resource → ExceptT Error m Bundle
  | [] => return b
  | r :: rest => do
    let b' ← MonadExcept.ofExcept (b.insert r policy)
    let scope ← MonadExcept.ofExcept (Bundle.scopeOf r.name policy)
    note (.inserted r.name (scopeName scope))
    insertAll policy b' rest

/- The bundle that a list of names stands for. -/
def bundle
    (names : List String)
    (c : Config) : ExceptT Error m Bundle := do
  let resources ← Resource.resolveAll c.symbolPrefix c.search c.policy names
  insertAll c.policy Bundle.empty resources

/- Write one of the generated files. -/
def write
    (path text : String) : ExceptT Error m Unit := do
  match ← (Workspace.write path text : m _) with
  | .error fault => throw (.file path fault)
  | .ok () => note (.wrote path text.utf8ByteSize)

/- What is reported of a bundle that was written. -/
def report
    (request : Request)
    (b : Bundle) : Report :=
  ⟨request.asm, request.header,
    b.resources.map fun r => ⟨r.name, r.symbol, r.size, r.path⟩⟩

/- The steps of a run, up to the first that fails. -/
def run
    (request : Request)
    (c : Config) : ExceptT Error m Report := do
  MonadExcept.ofExcept c.validate
  let options ← MonadExcept.ofExcept c.headerOptions
  let b ← bundle request.resources c
  write request.asm (Assembly.render b.resources c.align)
  write request.header (Header.render b options)
  note (.generated b.size request.asm request.header)
  return report request b

/- Run, and note a failure. -/
def generate
    (request : Request)
    (c : Config) : ExceptT Error m Report :=
  ExceptT.mk do
    match ← (run request c).run with
    | .error e =>
      Journal.note (.failed e.message)
      return .error e
    | .ok r => return .ok r

end Generation

end ResourcePack
