import Portability.Support.Table
import Portability.Support.VendorPrefix

/-!
# Support of a term by a release

A release supports a term under a spelling if one of the browser's records is for the vendor prefix
of that spelling, or for none where it has none, and the release lies in the range of the record.
A range includes the version in which the term was added and excludes the one in which it was
removed.
-/
namespace Portability

inductive SupportState where
  | supported
  | unsupported
  | browserNotFound
  | dataNotFound
deriving DecidableEq, Repr

/-- Whether the range of a record covers a version number. -/
def SupportRecord.covers (record : SupportRecord) (version : Float) : Bool :=
  (record.added == .always && record.removed == .absent) ||
    (record.added.number ≤ version && version < record.removed.number)

/-- How a browser's version supports a term under a spelling, by the table of the term. -/
def supportState (table : Option SupportTable) (browser version spelling : String) :
    SupportState :=
  match table with
  | none => .dataNotFound
  | some table =>
    match table.records? browser with
    | none => .browserNotFound
    | some records =>
      if records.any fun record =>
          record.vendor == vendorPrefix? spelling && record.covers (versionNumber version)
      then .supported
      else .unsupported

end Portability
