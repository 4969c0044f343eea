import Portability.Catalog.Node
import Portability.Fault

/-!
# Reading nodes from a snapshot

A node is an object. Its field `__compat` holds the support table, `__data_types` the data types of
a property, and other fields that begin with two underscores are passed over; every remaining field
is a child. Of two children whose names differ only in case the first stays.

Children whose names end in `_context` stand behind the others. They say how the term is supported
in one context: a node without a table of its own takes the tables of its contexts instead.
-/
namespace Portability.Node

def tableField : String := "__compat"

def dataTypeFields : List String := ["__data_types", "__dataTypes"]

def isReserved (field : String) : Bool := ['_', '_'].isPrefixOf field.toList

/-- Whether a name is that of a context of its parent. -/
def isContextName (name : String) : Bool := "_context".toList.isSuffixOf name.toList

/-- What one field of a node says. -/
inductive Entry where
  | table (table : SupportTable)
  | dataTypes (names : List String)
  | child (node : Node)
  | nothing

namespace Entry

def table? : Entry → Option SupportTable
  | .table held => some held
  | _ => none

def dataTypes? : Entry → Option (List String)
  | .dataTypes names => some names
  | _ => none

def child? : Entry → Option Node
  | .child node => some node
  | _ => none

end Entry

/-- Puts a node behind the others, unless one of them has its key. -/
def insert (nodes : List Node) (node : Node) : List Node :=
  if nodes.any (·.key == node.key) then nodes else nodes ++ [node]

/-- The table of a context, if that has one of its own. -/
def contextTable? (context : Node) : Option (String × SupportTable) :=
  match context.table with
  | some (.direct table) => some (context.name, table)
  | _ => none

/-- The table source of a node with this table of its own and these contexts. -/
def tableSource (own : Option SupportTable) (contexts : List Node) : Option TableSource :=
  match own, contexts.filterMap contextTable? with
  | some table, _ => some (.direct table)
  | none, [] => none
  | none, tables => some (.byContext tables)

/-- The node of which the fields say these things. -/
def ofEntries (name : String) (entries : List Entry) : Node :=
  let children := entries.filterMap Entry.child?
  let contexts := children.filter (isContextName ·.name)
  let others := children.filter (!isContextName ·.name)
  { label := Label.of name
    table := tableSource (entries.filterMap Entry.table?).getLast? contexts
    dataTypes := (entries.filterMap Entry.dataTypes?).getLast?.getD []
    link := none
    children := (others ++ contexts).foldl insert [] }

def tableEntry (path : String) (json : Json) : Except Fault Entry :=
  match SupportTable.ofJson? json with
  | some table => .ok (.table table)
  | none => .error (.malformedSnapshot path)

def dataTypesEntry (path : String) (json : Json) : Except Fault Entry :=
  match Json.listOf? Json.text? json with
  | some names => .ok (.dataTypes names)
  | none => .error (.malformedSnapshot path)

mutual

/-- Reads a node; `path` names the place in messages. -/
def ofJson (name path : String) : Json → Except Fault Node
  | .object fields => do return ofEntries name (← entriesOfFields path fields)
  | other => .error (.notAnObject path other.kind)

/-- Reads the fields of a node up to the first that is at fault. -/
def entriesOfFields (path : String) : List (String × Json) → Except Fault (List Entry)
  | [] => .ok []
  | (field, value) :: rest => do
    let place := path ++ "." ++ field
    let entry ←
      if field = tableField then tableEntry place value
      else if field ∈ dataTypeFields then dataTypesEntry place value
      else if isReserved field then pure .nothing
      else Entry.child <$> ofJson field place value
    return entry :: (← entriesOfFields path rest)

end

end Portability.Node
