import Portability.Json.Basic
import Portability.Json.Token

/-!
# Reading JSON text

The tokens of a document drive a machine that holds the containers still open, innermost first.
Each token is allowed or not by what the machine expects. The text is a document when the machine
has one value, nothing open and nothing left to read. Containers may be nested 127 deep; a deeper
one is still checked for its form, and is unreadable.
-/
namespace Portability.Json

/-- A container whose end has not been read, its contents newest first. -/
inductive Frame where
  | list (items : List Json)
  | object (fields : List (Option String × Json)) (name : Option String)

/-- What may come next. -/
inductive Expected where
  | value
  | firstItem
  | name
  | firstName
  | colon
  | separator
deriving DecidableEq, Repr

structure Machine where
  opened : List Frame
  depth : Nat
  expected : Expected
  result : Option Json

namespace Machine

def start : Machine := ⟨[], 0, .value, none⟩

def deepest : Nat := 127

/-- Puts a finished value into the innermost open container. -/
def add (machine : Machine) (value : Json) : Machine :=
  match machine.opened with
  | [] => { machine with expected := .separator, result := some value }
  | .list items :: outer =>
    { machine with opened := .list (value :: items) :: outer, expected := .separator }
  | .object fields name :: outer =>
    { machine with
      opened := .object ((name, value) :: fields) none :: outer, expected := .separator }

def enter (machine : Machine) (frame : Frame) (expected : Expected) : Machine :=
  { machine with opened := frame :: machine.opened, depth := machine.depth + 1, expected }

/-- Ends the innermost open container. -/
def leave (machine : Machine) (outer : List Frame) (value : Json) : Machine :=
  add { machine with opened := outer, depth := machine.depth - 1 }
    (if deepest < machine.depth then unreadable else value)

/-- The object with these fields, newest first. -/
def objectOf (fields : List (Option String × Json)) : Json :=
  match fields.reverse.mapM fun (name, value) => name.map (·, value) with
  | some fields => object fields
  | none => unreadable

def acceptsValue (machine : Machine) : Bool :=
  machine.expected == .value || machine.expected == .firstItem

def step (machine : Machine) (token : Token) : Option Machine :=
  match token, machine.opened with
  | .null, _ => if machine.acceptsValue then some (machine.add null) else none
  | .boolean value, _ => if machine.acceptsValue then some (machine.add (boolean value)) else none
  | .number value, _ =>
    if machine.acceptsValue then some (machine.add ((value.map number).getD unreadable)) else none
  | .openList, _ =>
    if machine.acceptsValue then some (machine.enter (.list []) .firstItem) else none
  | .openObject, _ =>
    if machine.acceptsValue then some (machine.enter (.object [] none) .firstName) else none
  | .text value, opened =>
    -- A string is a value or the name of a field.
    if machine.acceptsValue then some (machine.add ((value.map text).getD unreadable))
    else match machine.expected, opened with
      | .name, .object fields _ :: outer | .firstName, .object fields _ :: outer =>
        some { machine with opened := .object fields value :: outer, expected := .colon }
      | _, _ => none
  | .colon, _ => if machine.expected == .colon then some { machine with expected := .value } else none
  | .comma, .list _ :: _ =>
    if machine.expected == .separator then some { machine with expected := .value } else none
  | .comma, .object .. :: _ =>
    if machine.expected == .separator then some { machine with expected := .name } else none
  | .closeList, .list items :: outer =>
    if machine.expected == .separator || machine.expected == .firstItem then
      some (machine.leave outer (list items.reverse))
    else none
  | .closeObject, .object fields _ :: outer =>
    if machine.expected == .separator || machine.expected == .firstName then
      some (machine.leave outer (objectOf fields))
    else none
  | _, _ => none

end Machine

/-- The document that a text writes. -/
def ofText? (text : String) : Option Json := do
  let tokens ← Token.readAll [] text.toList
  let machine ← tokens.foldlM Machine.step Machine.start
  if machine.opened.isEmpty then machine.result else none

/-- The value that a text writes. -/
def valueOfText? (text : String) : Option Json :=
  (ofText? text).bind value?

end Portability.Json
