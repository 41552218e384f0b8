import ResourcePack.Log.Stamp
import ResourcePack.Program
import Std.Time.DateTime.Timestamp

/-
  The command line program.

  Key definitions include:
    * `main`

  The program is `ResourcePack.Program.run` on the files, the
  environment and the clock of the machine.  A file is what can be
  opened and read as one.
-/

------------------------------------------------------------
-- Faults
------------------------------------------------------------

namespace ResourcePack.Machine

/- The fault of a system error number, if it has a name here. -/
def faultOfNumber? : UInt32 → Option FileFault
  | 2 => some .notFound
  | 17 => some .exists
  | 20 => some .notDirectory
  | 21 => some .isDirectory
  | 28 => some .noSpace
  | 36 => some .nameTooLong
  | 40 => some .tooManyLinks
  | _ => none

/- The system error number of an error. -/
def numberOf? : IO.Error → Option UInt32
  | .alreadyExists _ n _ => some n
  | .otherError n _ => some n
  | .noFileOrDirectory _ n _ => some n
  | .invalidArgument _ n _ => some n
  | .permissionDenied _ n _ => some n
  | .resourceExhausted _ n _ => some n
  | .inappropriateType _ n _ => some n
  | .noSuchThing _ n _ => some n
  | _ => none

/- Do something with files; what goes wrong is a fault. -/
def attempt
    {α : Type}
    (path : String)
    (act : IO α) : IO (Except FileFault α) := do
  if path.toList.contains '\x00' then
    return .error .nulInName
  try
    return .ok (← act)
  catch e =>
    return .error (((numberOf? e).bind faultOfNumber?).getD (.other (toString e)))

/- Write a text to a file that is opened in a mode. -/
def writeIn
    (mode : IO.FS.Mode)
    (path text : String) : IO Unit := do
  let file ← IO.FS.Handle.mk path mode
  if text ≠ "" then
    file.putStr text
  file.flush

/- The text of a file, whose bytes are read first. -/
def readText
    (path : String) : IO (Except FileFault String) := do
  match ← attempt path (IO.FS.readBinFile path) with
  | .error fault => return .error fault
  | .ok contents => return (Entry.file contents).text

end ResourcePack.Machine

------------------------------------------------------------
-- The Machine
------------------------------------------------------------

namespace ResourcePack.Machine

instance : Workspace IO where
  isFile path := do
    match ← attempt path (do (← IO.FS.Handle.mk path .read).read 1) with
    | .ok _ => return true
    | .error _ => return false
  size path := attempt path do return (← IO.FS.readBinFile path).size
  canonical path := attempt path do return toString (← IO.FS.realPath path)
  read path := readText path
  write path text := attempt path (writeIn .write path text)
  append path text := attempt path (writeIn .append path text)
  makeDirectories path := attempt path do
    if path ≠ "" then
      IO.FS.createDirAll path

instance : Console IO where
  print text := IO.print text
  complain text := IO.eprint text
  stamp := do
    let now ← Std.Time.Timestamp.now
    return Log.stamp now.toNanosecondsSinceUnixEpoch.toInt.toNat

/- The variables of the environment. -/
def environment : IO Environment := do
  let text := (← readText "/proc/self/environ").toOption.getD ""
  return (Text.splitOn '\x00' text).filterMap fun entry =>
    match Text.splitOn '=' entry with
    | name :: value :: rest => some (name, String.intercalate "=" (value :: rest))
    | _ => none

end ResourcePack.Machine

open ResourcePack in
/- Run the program with the arguments of the call. -/
def main
    (args : List String) : IO UInt32 := do
  let env ← Machine.environment
  let code ← (Program.run env args : IO Nat)
  return code.toUInt32
