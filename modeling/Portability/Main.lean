import Portability.Program.Run

/-!
# The program

Reads from the disk what a run asks for, and prints what it leaves behind.
-/
namespace Portability.Disk

/-- Why a file could not be read. -/
def problemOf (error : IO.Error) : FileProblem :=
  match error with
  | .noFileOrDirectory .. => .notFound
  | .inappropriateType .. => .notDirectory
  | .permissionDenied _ 13 _ => .notPermitted
  | other => .other (toString other)

def readText (path : String) : IO (Except FileProblem String) := do
  try
    if ← (← IO.FS.realPath path).isDir then return .error .isDirectory
    match String.fromUTF8? (← IO.FS.readBinFile path) with
    | some text => return .ok text
    | none => return .error .notUnicode
  catch error => return .error (problemOf error)

/-- The names of the files in a directory, and those in the directories in it. Links are neither
files nor directories. -/
partial def namesIn (path : String) : IO (FileTree Unit) := do
  try
    let mut entries := []
    for entry in ← (← IO.FS.realPath path).readDir do
      match (← entry.path.symlinkMetadata).type with
      | .file => entries := (entry.fileName, .file ()) :: entries
      | .dir => entries := (entry.fileName, ← namesIn (path ++ "/" ++ entry.fileName)) :: entries
      | _ => continue
    return .directory entries
  catch error => return .closed (problemOf error)

def isDirectory (path : String) : IO Bool := do
  try (← IO.FS.realPath path).isDir
  catch _ => return false

def host (start : Nat) : Host IO where
  readText := readText
  jsonFiles? path := do
    if ← isDirectory path then liftM ((← namesIn path).jsonPaths? path)
    else return none
  elapsed := return toString ((← IO.monoMsNow) - start)

end Portability.Disk

def main (words : List String) : IO UInt32 := do
  let outcome ← Portability.Program.run (Portability.Disk.host (← IO.monoMsNow)) words
  IO.print outcome.output
  IO.eprint outcome.errors
  return UInt32.ofNat outcome.exitCode
