import Portability.Json.Fields
import Portability.Support.Version

/-!
# Support tables

The compatibility data holds for each term a table: for each browser the ranges of versions in
which the term is available, possibly only with a vendor prefix or under another name, and what
standards say about the term. Where a browser has one range, the data may leave out the list around
it.
-/
namespace Portability

/-- A range of versions in which a term is available under one spelling. -/
structure SupportRecord where
  added : Bound := .absent
  removed : Bound := .absent
  vendor : Option String := none
  otherName : Option String := none
deriving DecidableEq, Repr

namespace SupportRecord

/-- The spelling under which the record makes a term available, if that is not its own name. -/
def alias? (record : SupportRecord) (term : String) : Option String :=
  match record.otherName with
  | some name => some name
  | none => record.vendor.map (· ++ term)

def ofJson? (json : Json) : Option SupportRecord := do
  let names := ["version_added", "version_removed", "prefix", "alternative_name"]
  let [added, removed, vendor, otherName] ← json.fields? names 0 | none
  return {
    added := ← Json.orDefault .absent Bound.ofJson? added
    removed := ← Json.orDefault .absent Bound.ofJson? removed
    vendor := ← Json.optional Json.text? vendor
    otherName := ← Json.optional Json.text? otherName }

/--
The records of one browser: one record, or else a list of them. A list is first tried as the fields
of one record, so the empty list is a record of which everything is left out.
-/
def listOfJson? (json : Json) : Option (List SupportRecord) :=
  -- Both forms are tried on the same document, so no part of it may be unreadable.
  if json.isReadable then
    match ofJson? json with
    | some record => some [record]
    | none => Json.listOf? ofJson? json
  else none

end SupportRecord

/-- What standards say about a term. -/
structure Standing where
  deprecated : Bool := false
  experimental : Bool := false
  standardTrack : Bool := false
deriving DecidableEq, Repr

def Standing.ofJson? (json : Json) : Option Standing := do
  let [deprecated, experimental, standardTrack] ←
    json.fields? ["deprecated", "experimental", "standard_track"] 0 | none
  return {
    deprecated := ← Json.orDefault false Json.boolean? deprecated
    experimental := ← Json.orDefault false Json.boolean? experimental
    standardTrack := ← Json.orDefault false Json.boolean? standardTrack }

structure SupportTable where
  support : List (String × List SupportRecord) := []
  standing : Standing := {}
  reference : Option String := none
  description : Option String := none
deriving DecidableEq, Repr

namespace SupportTable

/-- The records of a browser, if the table has an entry for it. -/
def records? (table : SupportTable) (browser : String) : Option (List SupportRecord) :=
  Keyed.get? table.support browser

/-- All records of the table, browser by browser. -/
def allRecords (table : SupportTable) : List SupportRecord :=
  table.support.flatMap (·.2)

def ofJson? (json : Json) : Option SupportTable := do
  let [support, standing, reference, description] ←
    json.fields? ["support", "status", "mdn_url", "description"] 0 | none
  return {
    support := ← Json.orDefault [] (Json.entriesOf? SupportRecord.listOfJson?) support
    standing := ← Json.orDefault {} Standing.ofJson? standing
    reference := ← Json.optional Json.text? reference
    description := ← Json.optional Json.text? description }

end SupportTable

end Portability
