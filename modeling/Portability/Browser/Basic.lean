import Portability.Json.Fields

/-!
# Browsers and their releases

A browser has a display name and its releases under their version texts, in the order in which the
compatibility data lists them.
-/
namespace Portability

/-- The channel of a release, as the compatibility data names it. -/
inductive ReleaseStatus where
  | retired
  | current
  | exclusive
  | beta
  | nightly
  | esr
  | planned
  | unknown
deriving DecidableEq, Repr

namespace ReleaseStatus

def word : ReleaseStatus → String
  | retired => "retired"
  | current => "current"
  | exclusive => "exclusive"
  | beta => "beta"
  | nightly => "nightly"
  | esr => "esr"
  | planned => "planned"
  | unknown => "unknown"

/-- Any word that is not the name of a channel means an unknown channel. -/
def ofWord (word : String) : ReleaseStatus :=
  ([retired, current, exclusive, beta, nightly, esr, planned].find? (·.word == word)).getD unknown

theorem ofWord_word (status : ReleaseStatus) : ofWord status.word = status := by
  cases status <;> decide

/-- A status is a word, or an object with that word as its only field and nothing in it. -/
def ofJson? : Json → Option ReleaseStatus
  | .text word => some (ofWord word)
  | .object [(word, .null)] => some (ofWord word)
  | _ => none

/-- TOML has no null, so there an empty table or list says that nothing is under the word. -/
def ofToml? : Json → Option ReleaseStatus
  | .text word => some (ofWord word)
  | .object [(word, .object [])] => some (ofWord word)
  | .object [(word, .list [])] => some (ofWord word)
  | _ => none

end ReleaseStatus

structure Release where
  status : ReleaseStatus
  date : Option String
deriving DecidableEq, Repr

def Release.ofJson? (json : Json) : Option Release := do
  let [status, date] ← json.fields? ["status", "release_date"] 1 | none
  return {
    status := ← ReleaseStatus.ofJson? (← status)
    date := ← Json.optional Json.text? date }

structure Browser where
  name : String
  releases : List (String × Release)
deriving DecidableEq, Repr

def Browser.ofJson? (json : Json) : Option Browser := do
  let [name, releases] ← json.fields? ["name", "releases"] 1 | none
  return {
    name := ← Json.text? (← name)
    releases := ← Json.orDefault [] (Json.entriesOf? Release.ofJson?) releases }

end Portability
