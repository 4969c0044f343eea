/-!
# Entries in order of first appearance

Browsers, releases and support records are kept under names. An entry list remembers the order in
which its names first appeared; storing a name again replaces what it holds and keeps its place.
-/
namespace Portability.Keyed

variable {α : Type}

def get? (entries : List (String × α)) (name : String) : Option α :=
  (entries.find? (·.1 == name)).map (·.2)

def put : List (String × α) → String → α → List (String × α)
  | [], name, value => [(name, value)]
  | (other, held) :: rest, name, value =>
    if other = name then (other, value) :: rest else (other, held) :: put rest name value

/-- Stores the pairs one after another. -/
def ofPairs (pairs : List (String × α)) : List (String × α) :=
  pairs.foldl (fun entries (name, value) => put entries name value) []

end Portability.Keyed
