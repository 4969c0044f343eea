import Portability.Browser.Target
import Portability.Fault
import Portability.Json.Reader
import Portability.Toml.Reader

/-!
# Configuration files

A configuration file may name the snapshot, the targets and the options of a check. The end of its
name says whether it is written in JSON or in TOML.
-/
namespace Portability

structure Config where
  data : Option String := none
  targets : Option (List Target) := none
  values : Option Bool := none
  flagUnknown : Option Bool := none
deriving DecidableEq, Repr

namespace Config

/-- Decodes a configuration, its targets by `target?`. -/
def decode? (target? : Json → Option Target) (json : Json) : Option Config := do
  let names := ["data", "browsers", "css_values", "flag_unknown_browsers"]
  let [data, targets, values, flagUnknown] ← json.fields? names 4 | none
  return {
    data := ← Json.optional Json.text? data
    targets := ← Json.optional (Json.listOf? target?) targets
    values := ← Json.optional Json.boolean? values
    flagUnknown := ← Json.optional Json.boolean? flagUnknown }

/-- The format of a file, by the end of its name. -/
def format? (path : String) : Option ConfigFormat :=
  if ".json".toList.isSuffixOf path.toList then some .json
  else if ".toml".toList.isSuffixOf path.toList then some .toml
  else none

/-- The configuration that a text writes in a format. -/
def read? (format : ConfigFormat) (text : String) : Option Config :=
  match format with
  | .json => (Json.ofText? text).bind (decode? Target.ofJson?)
  | .toml => (Toml.ofText? text).bind (decode? Target.ofToml?)

/-- The configuration in the file at a path that holds this text. -/
def ofText (path text : String) : Except Fault Config :=
  match format? path with
  | none => .error .unknownConfigFormat
  | some format =>
    match read? format text with
    | some config => .ok config
    | none => .error (.malformedConfig format)

end Config

end Portability
