import Portability.Decimal.Numeral
import Portability.Json.Basic
import Portability.Text.Blank

/-!
# Version numbers

Versions are compared by the decimal number at the start of their text, so that `12.1.2` counts as
12.1. A text that does not start with a number has no place in the order: its version number is not
a number, and no comparison with it holds.
-/
namespace Portability

def versionNumber (version : String) : Float :=
  match Decimal.Numeral.readUnscaled? (Text.trimStart version.toList) with
  | some (numeral, _) => numeral.value
  | none => Decimal.notANumber

/-- One end of the range of versions in which a term is available. -/
inductive Bound where
  | always
  | version (text : String)
  | absent
deriving DecidableEq, Repr

namespace Bound

/-- An absent end lies behind every version. -/
def number : Bound → Float
  | always => 0
  | version text => versionNumber text
  | absent => Decimal.infinity

def ofJson? : Json → Option Bound
  | .boolean true => some always
  | .boolean false | .null => some absent
  | .text text => some (version text)
  | _ => none

end Bound

end Portability
