import Portability.Catalog.Basic
import Portability.Text.Blank

/-!
# Choosing targets

Where nobody names targets, every maintained release of the usual browsers is one. A target can be
named as `ID=VERSION`, with the id of a browser that the catalog knows.
-/
namespace Portability

/-- The browsers that are checked by default, in the order of reports. -/
def defaultBrowsers : List String :=
  ["firefox", "firefox_android", "chrome", "chrome_android", "safari", "safari_ios", "edge",
    "edge_mobile"]

/-- Whether releases of a channel still reach users. -/
def ReleaseStatus.isMaintained (status : ReleaseStatus) : Bool :=
  status == .esr || status == .current || status == .beta || status == .nightly

/-- The maintained releases of a browser. -/
def Browser.maintained (browser : Browser) (id : String) : List Target :=
  browser.releases.filterMap fun (version, release) =>
    if release.status.isMaintained then
      some { id, version, name := some browser.name, status := some release.status }
    else none

namespace Catalog

def defaultTargets (catalog : Catalog) : List Target :=
  defaultBrowsers.flatMap fun id =>
    match catalog.browser? id with
    | some browser => browser.maintained id
    | none => []

/-- The two sides of the first equals sign. -/
def splitSpec? (spec : List Char) : Option (List Char × List Char) :=
  match spec.dropWhile (· ≠ '=') with
  | _ :: version => some (spec.takeWhile (· ≠ '='), version)
  | [] => none

/-- The target that `ID=VERSION` names. -/
def targetOfSpec (catalog : Catalog) (spec : String) : Except Fault Target :=
  match splitSpec? spec.toList with
  | none => .error (.malformedTarget spec)
  | some (left, right) =>
    let id := Text.trimmed (String.ofList left)
    let version := Text.trimmed (String.ofList right)
    if id.isEmpty || version.isEmpty then .error (.malformedTarget spec)
    else match catalog.browser? id with
      | none => .error (.unknownBrowser id)
      | some browser =>
        .ok {
          id, version
          name := some browser.name
          status := (Keyed.get? browser.releases version).map Release.status }

/-- Gives a target without a name the one that the catalog knows. -/
def nameTarget (catalog : Catalog) (target : Target) : Target :=
  match target.name with
  | some _ => target
  | none => { target with name := (catalog.browser? target.id).map Browser.name }

end Catalog

end Portability
