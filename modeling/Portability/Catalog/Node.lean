import Portability.Support.Table
import Portability.Text.LowerCase

/-!
# The tree of terms

Properties, data types, elements and attributes form one tree of nodes. Each node carries the name
of its term and may carry a support table, the data types of a property, and a link to a sibling
that is another spelling of the same term. Terms are looked up without regard to case, following at
most one such link at each step of a path.
-/
namespace Portability

/-- A name together with the lower-case form under which it is found. -/
structure Label where
  text : String
  key : String
  key_eq : key = Text.lowerCase text
deriving DecidableEq

def Label.of (text : String) : Label := ⟨text, Text.lowerCase text, rfl⟩

/-- Where the support table of a term comes from. -/
inductive TableSource where
  | direct (table : SupportTable)
  | byContext (tables : List (String × SupportTable))
deriving DecidableEq, Repr

namespace TableSource

/-- The table for a chosen context; a direct table holds in all of them. -/
def inContext? (source : TableSource) (context : String) : Option SupportTable :=
  match source with
  | direct table => some table
  | byContext tables => Keyed.get? tables context

/-- The table to use where the context is not known: that of the first context. -/
def usual? : TableSource → Option SupportTable
  | direct table => some table
  | byContext tables => tables.head?.map (·.2)

def contexts : TableSource → List String
  | direct _ => []
  | byContext tables => tables.map (·.1)

end TableSource

/-- How a node stands to other spellings of its term. -/
inductive AliasLink where
  /-- The term's own name, which has at least one other spelling. -/
  | canonical
  /-- Another spelling of the sibling with this name. -/
  | aliasOf (term : String)
deriving DecidableEq, Repr

structure Node where
  label : Label
  table : Option TableSource
  dataTypes : List String
  link : Option AliasLink
  children : List Node

namespace Node

def name (node : Node) : String := node.label.text

def key (node : Node) : String := node.label.key

def isAlias (node : Node) : Bool :=
  match node.link with
  | some (.aliasOf _) => true
  | _ => false

/-- A node that only points at its sibling `term`. -/
def aliasNode (spelling term : String) : Node :=
  ⟨Label.of spelling, none, [], some (.aliasOf term), []⟩

def usualTable? (node : Node) : Option SupportTable := node.table.bind TableSource.usual?

/-- The node found under a key. -/
def findKey? (nodes : List Node) (key : String) : Option Node := nodes.find? (·.key == key)

/-- The child with a name, in any letter case. -/
def child? (node : Node) (term : String) : Option Node :=
  findKey? node.children (Text.lowerCase term)

/-- The child with a name, or the child whose other spelling that name is. -/
def step? (node : Node) (term : String) : Option Node := do
  let child ← node.child? term
  match child.link with
  | some (.aliasOf canonical) => node.child? canonical
  | _ => return child

/-- The node at the end of a path. -/
def at? (node : Node) : List String → Option Node
  | [] => some node
  | term :: rest => (node.step? term).bind (·.at? rest)

def tableAt? (node : Node) (path : List String) : Option SupportTable :=
  (node.at? path).bind usualTable?

/-- The name of the term of which the last step of a path is a spelling, where it has several. -/
def canonicalName? (node : Node) (path : List String) : Option String := do
  let last ← path.getLast?
  let parent ← node.at? path.dropLast
  let child ← parent.child? last
  match ← child.link with
  | .canonical => return child.name
  | .aliasOf canonical => return canonical

mutual

/-- The path of keys to the first node below this one that has the given key. -/
def pathBelow? (key : String) : Node → Option (List String)
  | ⟨_, _, _, _, children⟩ => pathAmong? key children

/-- The first node with the key among these and the nodes below them, each before those below it. -/
def pathAmong? (key : String) : List Node → Option (List String)
  | [] => none
  | child :: rest =>
    if child.key = key then some [key]
    else match pathBelow? key child with
      | some path => some (child.key :: path)
      | none => pathAmong? key rest

end

/-- The path to the first node below this one with a name in any letter case. -/
def pathTo? (node : Node) (term : String) : Option (List String) :=
  pathBelow? (Text.lowerCase term) node

mutual

/-- Whether two trees are the same. -/
def same : Node → Node → Bool
  | ⟨label, table, dataTypes, link, children⟩, other =>
    label == other.label && table == other.table && dataTypes == other.dataTypes &&
      link == other.link && allSame children other.children

def allSame : List Node → List Node → Bool
  | [], [] => true
  | first :: rest, other :: others => same first other && allSame rest others
  | _, _ => false

end

mutual

theorem same_iff (node other : Node) : same node other = true ↔ node = other := by
  obtain ⟨label, table, dataTypes, link, children⟩ := node
  obtain ⟨label', table', dataTypes', link', children'⟩ := other
  simp [same, allSame_iff children children', and_assoc]

theorem allSame_iff (nodes others : List Node) : allSame nodes others = true ↔ nodes = others := by
  match nodes, others with
  | [], [] => simp [allSame]
  | [], _ :: _ => simp [allSame]
  | _ :: _, [] => simp [allSame]
  | first :: rest, other :: others => simp [allSame, same_iff first other, allSame_iff rest others]

end

instance : DecidableEq Node := fun node other => decidable_of_iff _ (same_iff node other)

end Node

end Portability
