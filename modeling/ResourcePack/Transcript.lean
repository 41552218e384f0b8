import ResourcePack.Workspace

/-
  Programs as data.

  Key definitions include:
    * `ResourcePack.Transcript`

  A transcript is a store together with everything that was printed
  and the time that stands still.  What a program does is then a
  function from transcripts to transcripts.
-/

namespace ResourcePack

/- The files and the printed texts of a program. -/
structure Transcript where
  store : Store
  out : String
  err : String
  clock : String

namespace Transcript

/- Do something with the store. -/
def onStore
    {α : Type}
    (f : StateM Store α) : StateM Transcript α :=
  fun t =>
    let (a, s) := f t.store
    (a, { t with store := s })

instance : Workspace (StateM Transcript) where
  isFile path := onStore (Workspace.isFile path)
  size path := onStore (Workspace.size path)
  canonical path := onStore (Workspace.canonical path)
  read path := onStore (Workspace.read path)
  write path text := onStore (Workspace.write path text)
  append path text := onStore (Workspace.append path text)
  makeDirectories path := onStore (Workspace.makeDirectories path)

instance : Console (StateM Transcript) where
  print text := fun t => ((), { t with out := t.out ++ text })
  complain text := fun t => ((), { t with err := t.err ++ text })
  stamp := fun t => (t.clock, t)

end Transcript

end ResourcePack
