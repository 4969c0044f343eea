import Portability.Keyed

/-!
# JSON

A document as it was read: objects keep their fields in order and keep a field that is written
twice. Some well-formed text stands for no value: a number beyond the range of doubles, a string
with half of a surrogate pair, a container nested too deeply. Such a part is `unreadable`; it does
no harm where nobody looks at it. A document that is read as a value must be readable throughout,
and of a field written twice the last value stays, in the place of the first.
-/
namespace Portability

inductive Json where
  | null
  | boolean (value : Bool)
  | number (value : Float)
  | text (value : String)
  | list (items : List Json)
  | object (fields : List (String × Json))
  | unreadable

namespace Json

instance : Inhabited Json := ⟨null⟩

mutual

def isReadable : Json → Bool
  | list items => itemsReadable items
  | object fields => fieldsReadable fields
  | unreadable => false
  | _ => true

def itemsReadable : List Json → Bool
  | [] => true
  | item :: rest => isReadable item && itemsReadable rest

def fieldsReadable : List (String × Json) → Bool
  | [] => true
  | (_, value) :: rest => isReadable value && fieldsReadable rest

end

mutual

/-- The same document with one field for each name in every object. -/
def distinct : Json → Json
  | list items => list (itemsDistinct items)
  | object fields => object (Keyed.ofPairs (fieldsDistinct fields))
  | other => other

def itemsDistinct : List Json → List Json
  | [] => []
  | item :: rest => distinct item :: itemsDistinct rest

def fieldsDistinct : List (String × Json) → List (String × Json)
  | [] => []
  | (name, value) :: rest => (name, distinct value) :: fieldsDistinct rest

end

/-- The value of a document. -/
def value? (document : Json) : Option Json :=
  if document.isReadable then some document.distinct else none

/-- What a message calls a value of this kind. -/
def kind : Json → String
  | null => "null"
  | boolean _ => "a boolean"
  | number _ => "a number"
  | text _ => "a string"
  | list _ => "an array"
  | object _ => "an object"
  | unreadable => "an unreadable value"

end Json

end Portability
