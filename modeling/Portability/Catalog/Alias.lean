import Portability.Catalog.Snapshot
import Portability.Text.Ascii

/-!
# Other spellings of a term

A support record with a vendor prefix or another name makes its term available under another
spelling. Beside each such term the tree gets a node for every spelling, which points at the term,
and the term itself is marked as having others. A spelling that is already taken stays what it is.
Contexts are no terms of their own and have no other spellings.
-/
namespace Portability

/-- How many terms have other spellings, and how many spellings those are. -/
structure AliasCount where
  terms : Nat := 0
  spellings : Nat := 0
deriving DecidableEq, Repr

instance : Add AliasCount :=
  ⟨fun left right => ⟨left.terms + right.terms, left.spellings + right.spellings⟩⟩

namespace Node

/-- The spellings that a table gives to a term, without repetitions that differ only in case. -/
def spellings (table : SupportTable) (term : String) : List String :=
  (table.allRecords.filterMap (·.alias? term)).foldl
    (fun found spelling =>
      if found.any (Text.sameIgnoringCase · spelling) then found else found ++ [spelling]) []

/-- A term with other spellings. -/
structure Spelled where
  label : Label
  others : List String

/-- The other spellings of a node, if it is a term of its own and has any. -/
def spelled? (node : Node) : Option Spelled :=
  if node.isAlias || isContextName node.name then none
  else match node.usualTable? with
    | some table =>
      match spellings table node.name with
      | [] => none
      | others => some ⟨node.label, others⟩
    | none => none

/-- Adds one spelling of a term to its siblings, if it is not taken. -/
def addSpelling (term : Label) (state : List Node × AliasCount) (spelling : String) :
    List Node × AliasCount :=
  let (siblings, count) := state
  let added := aliasNode spelling term.text
  -- The term may be spelled as itself, and another term may have the spelling already.
  if added.key = term.key then state
  else match findKey? siblings added.key with
    | some taken =>
      if taken.link = some (.aliasOf term.text) then (siblings, count + ⟨0, 1⟩) else state
    | none => (siblings ++ [added], count + ⟨0, 1⟩)

/-- Marks a term and adds its other spellings. -/
def addSpellings (state : List Node × AliasCount) (term : Spelled) : List Node × AliasCount :=
  let marked := state.1.map fun node =>
    if node.key = term.label.key then { node with link := some .canonical } else node
  term.others.foldl (addSpelling term.label) (marked, state.2 + ⟨1, 0⟩)

/-- Adds the other spellings of all these siblings. -/
def addAliases (siblings : List Node) : List Node × AliasCount :=
  (siblings.filterMap spelled?).foldl addSpellings (siblings, {})

mutual

/-- Adds the other spellings of every term below a node. -/
def withAliases : Node → Node × AliasCount
  | ⟨label, table, dataTypes, link, children⟩ =>
    let below := eachWithAliases children
    let added := addAliases below.1
    (⟨label, table, dataTypes, link, added.1⟩, below.2 + added.2)

def eachWithAliases : List Node → List Node × AliasCount
  | [] => ([], {})
  | child :: rest =>
    let first := if child.isAlias then (child, {}) else withAliases child
    let others := eachWithAliases rest
    (first.1 :: others.1, first.2 + others.2)

end

end Node

end Portability
