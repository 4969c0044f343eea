import Portability.Json.Basic

/-!
# Records in JSON

A record is written as an object, or as a list of its fields in their declared order. An object may
have fields that the record does not know; they are passed over, but a known field written twice is
a fault. A list has no more items than the record has fields, and may leave out only trailing
fields that have a default.
-/
namespace Portability.Json

/--
The contents of a record's declared fields, where given. A list must give at least the first
`required` of them.
-/
def fields? (names : List String) (required : Nat) : Json → Option (List (Option Json))
  | object fields => names.mapM fun name =>
    match fields.filter (·.1 == name) with
    | [] => some none
    | [(_, value)] => some (some value)
    | _ => none
  | list items =>
    if required ≤ items.length ∧ items.length ≤ names.length then
      some (items.map some ++ List.replicate (names.length - items.length) none)
    else none
  | _ => none

/-- The document without the items of a list from the `count`-th on. -/
def firstItems (count : Nat) : Json → Json
  | list items => list (items.take count)
  | other => other

def text? : Json → Option String
  | text value => some value
  | _ => none

def boolean? : Json → Option Bool
  | boolean value => some value
  | _ => none

/-- The items of a list, each decoded. -/
def listOf? {α : Type} (decode : Json → Option α) : Json → Option (List α)
  | list items => items.mapM decode
  | _ => none

/-- The entries of an object, each decoded; a name written twice holds what was written last. -/
def entriesOf? {α : Type} (decode : Json → Option α) : Json → Option (List (String × α))
  | object fields => do
    return Keyed.ofPairs (← fields.mapM fun (name, value) => (decode value).map (name, ·))
  | _ => none

/-- A field that may be missing, and then has a default. -/
def orDefault {α : Type} (default : α) (decode : Json → Option α) : Option Json → Option α
  | none => some default
  | some value => decode value

/-- A field that may be missing or null. -/
def optional {α : Type} (decode : Json → Option α) : Option Json → Option (Option α)
  | none | some null => some none
  | some value => (decode value).map some

end Portability.Json
