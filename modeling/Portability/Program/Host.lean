import Portability.Program.FileTree

/-!
# What a program asks of its surroundings

A run reads texts, searches directories and tells how long it took. Where the answers come from is
left open: a tree of files in memory serves as well as a disk.
-/
namespace Portability

structure Host (m : Type → Type) where
  /-- The text of the file at a path. -/
  readText : String → m (Except FileProblem String)
  /-- The JSON files in the directory at a path, if there is a directory. The search fails at the
  first directory that cannot be looked into. -/
  jsonFiles? : String → ExceptT SearchProblem m (Option (List String))
  /-- The milliseconds since the start, as text. -/
  elapsed : m String

/-- The files of a tree, each with its text unless that is not Unicode. -/
def Host.ofTree (tree : FileTree (Option String)) (elapsed : String) : Host Id where
  readText path :=
    match tree.find path with
    | .ok (.file (some text)) => .ok text
    | .ok (.file none) => .error .notUnicode
    | .ok (.directory _) => .error .isDirectory
    | .ok (.closed problem) | .error problem => .error problem
  jsonFiles? path :=
    match tree.find path with
    | .ok found => found.jsonPaths? path
    | .error _ => .ok none
  elapsed := elapsed

end Portability
