import Portability.Catalog.Basic
import Portability.Value.Component

/-!
# What the catalog says of a component

A component of a property's value may be so old that every browser supports it, may have a support
table somewhere in the catalog, or may be unknown. An unknown component is left alone. The places
for a table are tried in a fixed order: below the property itself, then each of the property's data
types.
-/
namespace Portability

inductive Verdict where
  | safe
  | unverifiable
  | listed (term : String) (path : List String)
deriving DecidableEq, Repr

namespace Verdict

/-- The components of a data type that every browser supports, in lower case. -/
def safeKeys (dataType : String) : List String :=
  match dataType with
  | "length" =>
    ["px", "cm", "mm", "q", "in", "pc", "pt", "em", "ex", "ch", "rem", "vh", "vw", "vmin", "vmax"]
  | "percentage" => ["percentage"]
  | "global_keywords" => ["inherit", "initial"]
  | _ => []

def isZero : Component → Bool
  | .number value => value == 0
  | _ => false

/-- Whether a component is safe for a property with these data types. A bare zero is a length. -/
def isSafe (dataTypes : List String) (key : String) (component : Component) : Bool :=
  let lowered := Text.lowerCase key
  dataTypes.any (fun dataType => (safeKeys dataType).contains lowered) ||
    (isZero component && dataTypes.contains "length")

/-- Where a component with this key would be listed below a node, the node being at a path. -/
def placeBelow? (catalog : Catalog) (path : List String) (key : String) :
    Option (List String) := do
  let node ← catalog.root.at? path
  return path ++ (← node.pathTo? key)

/-- Where a component with this key would be listed as a data type or as a part of it. -/
def placeInType? (catalog : Catalog) (key dataType : String) : Option (List String) :=
  let path := Catalog.types ++ [dataType]
  if Text.sameIgnoringCase key dataType then some path else placeBelow? catalog path key

/-- The first place with a support table, below the property or among its data types. -/
def place? (catalog : Catalog) (property : Node) (propertyPath : List String) (key : String) :
    Option (List String) :=
  -- What is listed below the property itself counts before its data types.
  let below := (property.pathTo? key).map (propertyPath ++ ·)
  match below.filter catalog.hasTable with
  | some path => some path
  | none => property.dataTypes.findSome? fun dataType =>
      (placeInType? catalog key dataType).filter catalog.hasTable

/-- What the catalog says of a component in the value of a property. -/
def of (catalog : Catalog) (property : String) (component : Component) : Verdict :=
  let path := Catalog.properties ++ [property]
  match component.typeKey?, catalog.root.at? path with
  | some key, some node =>
    if isSafe node.dataTypes key component then safe
    else match place? catalog node path key with
      | some place => listed component.term place
      | none => unverifiable
  | _, _ => unverifiable

end Verdict

end Portability
