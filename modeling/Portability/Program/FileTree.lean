import Portability.Fault
import Portability.Keyed

/-!
# Files and directories

A tree of named files, as a program sees it from its working directory. Paths are resolved one step
at a time; a file cannot be passed through, not even by a slash behind its name. Directories are
searched depth first, with the entries of each in the order of their names, and the first directory
that cannot be looked into ends the search.
-/
namespace Portability

inductive FileTree (α : Type) where
  | file (content : α)
  | directory (entries : List (String × FileTree α))
  /-- A directory that cannot be looked into. -/
  | closed (problem : FileProblem)

namespace FileTree

variable {α : Type}

/-- Follows the steps of a path; `ancestors` are the directories above, nearest first. -/
def follow (ancestors : List (FileTree α)) (here : FileTree α) :
    List String → Except FileProblem (FileTree α)
  | [] => .ok here
  | step :: rest =>
    match here with
    | file _ => .error .notDirectory
    | closed problem => .error problem
    | directory entries =>
      if step = "" ∨ step = "." then follow ancestors here rest
      else if step = ".." then
        match ancestors with
        | parent :: above => follow above parent rest
        -- Above the tree there is a directory, but nothing is known of its entries.
        | [] => follow [] (directory []) rest
      else match Keyed.get? entries step with
        | some entry => follow (here :: ancestors) entry rest
        | none => .error .notFound

/-- What stands at a path. Nothing is known of what lies outside the tree. -/
def find (tree : FileTree α) (path : String) : Except FileProblem (FileTree α) :=
  match path.splitOn "/" with
  | [""] => .error .notFound
  | "" :: steps => follow [] (directory []) steps
  | steps => follow [] tree steps

/-- The path of an entry of a directory. -/
def join (path name : String) : String :=
  if path.toList.getLast? = some '/' then path ++ name else path ++ "/" ++ name

/-- Whether a file name has the extension of JSON files. -/
def hasJsonExtension (name : String) : Bool :=
  ".json".toList.isSuffixOf name.toList && name ≠ ".json"

mutual

/-- The paths of the JSON files in a tree that stands at a path, under this name. -/
def jsonPathsAt (path name : String) : FileTree α → Except SearchProblem (List String)
  | file _ => .ok (if hasJsonExtension name then [path] else [])
  | closed problem => .error ⟨path, problem⟩
  | directory entries =>
    -- The entries are looked into one after another, so the first problem in their order counts.
    let found := (jsonPathsOf path entries).mergeSort fun left right => !(right.1 < left.1)
    (found.mapM Prod.snd).map List.flatten

/-- For each entry of a directory, the paths of the JSON files in it. -/
def jsonPathsOf (path : String) :
    List (String × FileTree α) → List (String × Except SearchProblem (List String))
  | [] => []
  | (name, entry) :: rest =>
    (name, jsonPathsAt (join path name) name entry) :: jsonPathsOf path rest

end

/-- The paths of the JSON files in a directory, if it is one. -/
def jsonPaths? (path : String) : FileTree α → Except SearchProblem (Option (List String))
  | file _ => .ok none
  | searched => (jsonPathsAt path "" searched).map some

/-- Adds a file, making directories on the way. -/
def add (content : α) : List String → List (String × FileTree α) → List (String × FileTree α)
  | [], entries => entries
  | [name], entries => Keyed.put entries name (file content)
  | name :: rest, entries =>
    let inner := match Keyed.get? entries name with
      | some (directory inner) => inner
      | _ => []
    Keyed.put entries name (directory (add content rest inner))

end FileTree

end Portability
