import ResourcePack.Log.Event
import ResourcePack.Store.Access

/-
  What a run needs of the world around it.

  Key definitions include:
    * `ResourcePack.Workspace`
    * `ResourcePack.Journal`
    * `ResourcePack.Console`

  A run works on files and notes what it does.  It is written for
  every monad that offers both, so that one definition runs on the
  disk and on a store.  A run on a bare store keeps no notes: it is
  a run without a log, or one whose log is not written to a file.
  The program around a run also prints, and asks for the time.
-/

namespace ResourcePack

/- The files that a run works on, by their paths. -/
class Workspace (m : Type → Type) where
  /- Whether there is a regular file. -/
  isFile : String → m Bool
  /- The size of a file, in bytes. -/
  size : String → m (Except FileFault Nat)
  /- The absolute path of a file, without links. -/
  canonical : String → m (Except FileFault String)
  /- The text of a file. -/
  read : String → m (Except FileFault String)
  /- Write a text to a file, in place of what it holds. -/
  write : String → String → m (Except FileFault Unit)
  /- Write a text at the end of a file. -/
  append : String → String → m (Except FileFault Unit)
  /- Make a directory and those it lies in. -/
  makeDirectories : String → m (Except FileFault Unit)

/- Where a run notes its events. -/
class Journal (m : Type → Type) where
  note : Log.Event → m Unit

/- What a program prints to, and the time as it is logged. -/
class Console (m : Type → Type) where
  /- Print to the standard output. -/
  print : String → m Unit
  /- Print to the standard error. -/
  complain : String → m Unit
  /- The time. -/
  stamp : m String

instance : Workspace (StateM Store) where
  isFile path := fun s => (s.isFile path, s)
  size path := fun s => (s.size path, s)
  canonical path := fun s => (s.canonical path, s)
  read path := fun s => (s.read path, s)
  write path text := fun s => s.write path text
  append path text := fun s => s.append path text
  makeDirectories path := fun s => s.makeDirectories path

/-
  On a bare store nothing becomes of a note.  What is proved of such
  runs is about those that do not log to a file of the same store.
-/
instance : Journal (StateM Store) where
  note _ := pure ()

end ResourcePack
