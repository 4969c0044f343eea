import Portability.Browser.Target
import Portability.Catalog.Alias
import Portability.Json.Reader

/-!
# The catalog

A catalog is built once from a snapshot of the compatibility data: the browsers it knows and the
tree of terms, with the data types that properties have by convention and with all other spellings
of terms. Nothing changes it afterwards.
-/
namespace Portability

structure Catalog where
  browsers : List (String × Browser)
  root : Node
  aliases : AliasCount
deriving DecidableEq

namespace Catalog

def properties : List String := ["css", "properties"]

def types : List String := ["css", "types"]

def elements : List String := ["html", "elements"]

def globalAttributes : List String := ["html", "global_attributes"]

/-- The parts of a snapshot that hold terms. -/
def namespaces : List String := ["css", "html"]

/-- The data type of the keywords that every property takes. -/
def globalKeywords : String := "global_keywords"

/-- The data types of properties for which the compatibility data names none. -/
def conventionalTypes (property : String) : List String :=
  match property with
  | "background-image" => ["image", "url"]
  | "padding" | "margin" | "width" | "height" => ["length", "percentage", "calc"]
  | _ => []

/-- A property with data types takes the global keywords too, before all else. -/
def withTypes (property : Node) : Node :=
  let declared :=
    if property.dataTypes.isEmpty then conventionalTypes property.key else property.dataTypes
  -- The global keywords come first wherever they were not declared.
  let complete :=
    if declared.isEmpty || declared.contains globalKeywords then declared
    else globalKeywords :: declared
  { property with dataTypes := complete }

/-- Changes the node at the end of a path of keys, if there is one. -/
def changeAt (change : Node → Node) : List String → Node → Node
  | [], node => change node
  | key :: rest, node =>
    { node with
      children := node.children.map fun child =>
        if child.key = key then changeAt change rest child else child }

/-- Completes the data types of all properties. -/
def completeTypes (root : Node) : Node :=
  changeAt (fun node => { node with children := node.children.map withTypes }) properties root

/-- Reads the namespaces that a snapshot has, in their fixed order. -/
def readNamespaces (fields : List (String × Json)) : List String → Except Fault (List Node)
  | [] => .ok []
  | name :: rest =>
    match Keyed.get? fields name with
    | some json => do
      let node ← Node.ofJson name name json
      return node :: (← readNamespaces fields rest)
    | none => readNamespaces fields rest

def readBrowsers (fields : List (String × Json)) : Except Fault (List (String × Browser)) :=
  match Keyed.get? fields "browsers" with
  | none => .ok []
  | some json =>
    match Json.entriesOf? Browser.ofJson? json with
    | some browsers => .ok browsers
    | none => .error (.malformedSnapshot "browsers")

/-- Builds a catalog from the value of a snapshot. -/
def ofJson : Json → Except Fault Catalog
  | .object fields => do
    let browsers ← readBrowsers fields
    let children ← readNamespaces fields namespaces
    let (root, aliases) :=
      (completeTypes ⟨Label.of "<root>", none, [], none, children⟩).withAliases
    return { browsers, root, aliases }
  | other => .error (.notAnObject "<root>" other.kind)

/-- Builds a catalog from the text of a snapshot. -/
def ofText (text : String) : Except Fault Catalog :=
  match Json.valueOfText? text with
  | some json => ofJson json
  | none => .error .malformedJson

def browser? (catalog : Catalog) (id : String) : Option Browser := Keyed.get? catalog.browsers id

/-- Whether the node at the end of a path has a support table. -/
def hasTable (catalog : Catalog) (path : List String) : Bool :=
  (catalog.root.tableAt? path).isSome

end Catalog

end Portability
