import Portability.Browser.Basic
import Portability.Decimal.Text

/-!
# Target browsers

A target is one release of one browser that a page has to work in. It is named by the browser's id
and the version text; the display name and the channel are known only when they were looked up.
-/
namespace Portability

structure Target where
  id : String
  version : String
  name : Option String := none
  status : Option ReleaseStatus := none
deriving DecidableEq, Repr

namespace Target

/-- The display name where it is known, the id otherwise. -/
def shownName (target : Target) : String := target.name.getD target.id

def text (target : Target) : String := target.shownName ++ " " ++ target.version

/-- Whether two targets are the same release, however they are displayed. -/
def isSameRelease (target other : Target) : Bool :=
  target.id == other.id && target.version == other.version

/-- A version is a text, or a number as it was authored. -/
def versionOfJson? : Json → Option String
  | .text version => some version
  | .number version => some (Decimal.authored version)
  | _ => none

/-- Decodes a target, its status by `status?`. -/
def decode? (status? : Json → Option ReleaseStatus) (json : Json) : Option Target := do
  let [id, version, name, status] ← json.fields? ["id", "version", "name", "status"] 2 | none
  return {
    id := ← Json.text? (← id)
    version := ← versionOfJson? (← version)
    name := ← Json.optional Json.text? name
    status := ← Json.optional status? status }

def ofJson? : Json → Option Target := decode? ReleaseStatus.ofJson?

/-- A list in TOML may go on behind the four fields; what stands there is passed over. -/
def ofToml? (json : Json) : Option Target := decode? ReleaseStatus.ofToml? (json.firstItems 4)

def toJson (target : Target) : Json :=
  .object (
    [("id", .text target.id), ("version", .text target.version)] ++
    (target.name.map fun name => ("name", Json.text name)).toList ++
    (target.status.map fun status => ("status", Json.text status.word)).toList)

end Target

/-- The targets of one browser, under the display name of the first of them. -/
structure TargetGroup where
  id : String
  name : String
  versions : List String
deriving DecidableEq, Repr

namespace TargetGroup

/-- Adds a target to the group of its browser, or starts a group behind the others. -/
def insert : List TargetGroup → Target → List TargetGroup
  | [], target => [⟨target.id, target.shownName, [target.version]⟩]
  | group :: rest, target =>
    if group.id = target.id then
      { group with versions := group.versions ++ [target.version] } :: rest
    else group :: insert rest target

def ofTargets (targets : List Target) : List TargetGroup := targets.foldl insert []

def text (group : TargetGroup) : String := group.name ++ " " ++ ", ".intercalate group.versions

end TargetGroup

/-- The text of a list of targets, with the versions of each browser side by side. -/
def browserListText (targets : List Target) : String :=
  ", ".intercalate ((TargetGroup.ofTargets targets).map TargetGroup.text)

end Portability
