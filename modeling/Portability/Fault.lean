/-!
# What can go wrong

Each constructor is one cause. The wording that users see is the business of `Fault.message` alone.
Where a text cannot be decoded, the message names the place and says no more.
-/
namespace Portability

/-- Why a file could not be read as text. -/
inductive FileProblem where
  | notFound
  | isDirectory
  | notDirectory
  | notPermitted
  | notUnicode
  | other (explanation : String)
deriving DecidableEq, Repr

def FileProblem.message : FileProblem → String
  | notFound => "No such file or directory (os error 2)"
  | notDirectory => "Not a directory (os error 20)"
  | isDirectory => "Is a directory (os error 21)"
  | notPermitted => "Permission denied (os error 13)"
  | notUnicode => "stream did not contain valid UTF-8"
  | other explanation => explanation

/-- What stood in the way of a search: a directory on the way that could not be looked into. -/
structure SearchProblem where
  path : String
  problem : FileProblem
deriving DecidableEq, Repr

def SearchProblem.message (found : SearchProblem) : String :=
  "Directory traversal error: IO error for operation on " ++ found.path ++ ": " ++
    found.problem.message

inductive ConfigFormat where
  | json
  | toml
deriving DecidableEq, Repr

def ConfigFormat.name : ConfigFormat → String
  | json => "JSON"
  | toml => "TOML"

inductive Fault where
  | malformedJson
  | unreadableFile (path : String) (problem : FileProblem)
  | unreadableConfig (path : String) (problem : FileProblem)
  | notAnObject (path found : String)
  | malformedSnapshot (path : String)
  | malformedConfig (format : ConfigFormat)
  | unknownConfigFormat
  | noSnapshot
  | malformedTarget (spec : String)
  | unknownBrowser (id : String)
  | uncheckedFiles (count : Nat)
deriving DecidableEq, Repr

namespace Fault

def message : Fault → String
  | malformedJson => "JSON error: "
  | unreadableFile path problem => "File not found: " ++ path ++ ": " ++ problem.message
  | unreadableConfig path problem =>
    "File not found: Config file " ++ path ++ ": " ++ problem.message
  | notAnObject path found =>
    "Invalid snapshot at '" ++ path ++ "': expected an object, found " ++ found
  | malformedSnapshot path => "Invalid snapshot at '" ++ path ++ "': "
  | malformedConfig format => "Invalid format: Invalid " ++ format.name ++ " config: "
  | unknownConfigFormat => "Invalid format: Config file must be .json or .toml format"
  | noSnapshot =>
    "Invalid format: No compat snapshot given; use --data or set \x60data\x60 in the config file"
  | malformedTarget spec =>
    "Invalid format: Invalid browser: " ++ spec ++ ". Use ID=VERSION format."
  | unknownBrowser id => "Unknown browser: " ++ id
  | uncheckedFiles count => "Invalid format: " ++ toString count ++ " files could not be checked"

end Fault

end Portability
