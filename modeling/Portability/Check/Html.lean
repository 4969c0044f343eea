import Portability.Check.Summary

/-!
# Checking elements

An element gives at most one issue for itself and one for each of its attributes. An attribute is
looked up under the element first and among the global attributes second. Attributes that are known
in neither place, and those for the page's own data, are left alone.
-/
namespace Portability

structure Attribute where
  name : String
  value : String := ""
deriving DecidableEq, Repr

def Attribute.ofJson? (json : Json) : Option Attribute := do
  let [name, value] ← json.fields? ["name", "value"] 1 | none
  return {
    name := ← Json.text? (← name)
    value := ← Json.orDefault "" Json.text? value }

structure Element where
  name : String
  attributes : List Attribute := []
deriving DecidableEq, Repr

namespace Element

def ofJson? (json : Json) : Option Element := do
  let [name, attributes] ← json.fields? ["element", "attributes"] 1 | none
  return {
    name := ← Json.text? (← name)
    attributes := ← Json.orDefault [] (Json.listOf? Attribute.ofJson?) attributes }

/-- One element, or a list of them. -/
def listOfJson? (json : Json) : Option (List Element) :=
  match json with
  | .list items => items.mapM ofJson?
  | single => (ofJson? single).map ([·])

end Element

/-- Attributes that begin so hold the page's own data. -/
def dataAttributeStart : String := "data-"

def Attribute.isData (attr : Attribute) : Bool :=
  Text.beginsWith dataAttributeStart attr.name

/-- The issue of an element by itself. -/
def elementIssue? (catalog : Catalog) (element : String) (targets : List Target)
    (options : CheckOptions) : Option Issue :=
  let found := findings catalog (Catalog.elements ++ [element]) targets options
  let issue := { found.issue .element with element := some element }
  if issue.isReportable then some issue else none

/-- Where an attribute of an element has its table: under the element, or among the global ones. -/
def attributePath? (catalog : Catalog) (element name : String) : Option (List String) :=
  [Catalog.elements ++ [element, name], Catalog.globalAttributes ++ [name]].find?
    catalog.hasTable

/-- The issue of an attribute of an element. -/
def attributeIssue? (catalog : Catalog) (element : String) (attr : Attribute)
    (targets : List Target) (options : CheckOptions) : Option Issue :=
  if attr.isData then none
  else match attributePath? catalog element attr.name with
    | none => none
    | some path =>
      let found := findings catalog path targets options
      let issue :=
        { found.issue .elementAttribute with
          element := some element
          attributeName := some attr.name
          value := some attr.value }
      if issue.isReportable then some issue else none

/-- The issues of an element and of its attributes, in the order of the attributes. -/
def htmlIssues (catalog : Catalog) (element : Element) (targets : List Target)
    (options : CheckOptions) : List Issue :=
  (elementIssue? catalog element.name targets options).toList ++
    element.attributes.filterMap fun attr =>
      attributeIssue? catalog element.name attr targets options

/-- The issues of the elements in a JSON document. -/
def htmlIssuesOfJson (catalog : Catalog) (source : Json) (targets : List Target)
    (options : CheckOptions) : Except Fault (List Issue) :=
  match Element.listOfJson? source with
  | some elements => .ok (elements.flatMap fun element => htmlIssues catalog element targets options)
  | none => .error .malformedJson

/-- The issues of the elements that a JSON text holds. -/
def htmlIssuesOfText (catalog : Catalog) (source : String) (targets : List Target)
    (options : CheckOptions) : Except Fault (List Issue) :=
  match Json.valueOfText? source with
  | some json => htmlIssuesOfJson catalog json targets options
  | none => .error .malformedJson

end Portability
