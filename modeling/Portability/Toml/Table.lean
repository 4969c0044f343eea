import Portability.Json.Basic

/-!
# TOML tables while they are read

A table grows line by line. How it came about decides what may still be added: a table that only
lies on the way to another may get a header of its own later, one made by a dotted key takes values
from dotted keys alone, and what was written as a value is finished.
-/
namespace Portability.Toml

/-- How a table came about. -/
inductive Origin where
  | onTheWay
  | header
  | dotted
deriving DecidableEq, Repr

inductive Item where
  | value (json : Json)
  | table (origin : Origin) (entries : List (String × Item))
  /-- A list of tables: the finished ones, newest first, and the one that may still grow. -/
  | tables (finished : List Json) (current : List (String × Item))

mutual

def Item.toJson : Item → Json
  | .value json => json
  | .table _ entries => .object (entriesToJson entries)
  | .tables finished current => .list (finished.reverse ++ [.object (entriesToJson current)])

def entriesToJson : List (String × Item) → List (String × Json)
  | [] => []
  | (name, item) :: rest => (name, item.toJson) :: entriesToJson rest

end

abbrev Entries := List (String × Item)

/-- Stores a value under a dotted key, where nothing is stored yet. -/
def assign? (value : Json) : List String → Entries → Option Entries
  | [], _ => none
  | [name], entries =>
    match Keyed.get? entries name with
    | none => some (entries ++ [(name, .value value)])
    | some _ => none
  | name :: rest, entries =>
    match Keyed.get? entries name with
    | none => do return entries ++ [(name, .table .dotted (← assign? value rest []))]
    | some (.table .dotted inner) => do
      return Keyed.put entries name (.table .dotted (← assign? value rest inner))
    -- A dotted key may lead through these tables, but puts no value into them.
    | some (.table .onTheWay inner) =>
      if rest.length = 1 then none
      else return Keyed.put entries name (.table .onTheWay (← assign? value rest inner))
    | some (.tables finished current) =>
      if rest.length = 1 then none
      else return Keyed.put entries name (.tables finished (← assign? value rest current))
    | some _ => none

/-- Changes the entries at the end of a path, making tables on the way. -/
def changeAt? (change : Entries → Option Entries) : List String → Entries → Option Entries
  | [], entries => change entries
  | name :: rest, entries =>
    match Keyed.get? entries name with
    | none => do return entries ++ [(name, .table .onTheWay (← changeAt? change rest []))]
    | some (.table origin inner) => do
      return Keyed.put entries name (.table origin (← changeAt? change rest inner))
    | some (.tables finished current) => do
      return Keyed.put entries name (.tables finished (← changeAt? change rest current))
    | some (.value _) => none

/-- Opens a table by its header. A table gets one header at most. -/
def openTable? (name : String) (entries : Entries) : Option Entries :=
  match Keyed.get? entries name with
  | none => some (entries ++ [(name, .table .header [])])
  | some (.table .onTheWay inner) => some (Keyed.put entries name (.table .header inner))
  | some _ => none

/-- Opens the next table of a list of tables. -/
def openNext? (name : String) (entries : Entries) : Option Entries :=
  match Keyed.get? entries name with
  | none => some (entries ++ [(name, .tables [] [])])
  | some (.tables finished current) =>
    some (Keyed.put entries name (.tables (.object (entriesToJson current) :: finished) []))
  | some _ => none

end Portability.Toml
