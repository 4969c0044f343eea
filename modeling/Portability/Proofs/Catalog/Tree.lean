import Mathlib.Data.List.Basic
import Portability.Proofs.Catalog.Siblings

/-!
# Trees of nodes

A property of a whole tree is a property that every node in it has. Looking up a path goes from a
node to one of its children at each step, so it never leaves the part of the tree below.
-/
namespace Portability.Node

/-- Induction from the children of a node to the node. -/
@[elab_as_elim]
theorem induct {motive : Node → Prop}
    (step : ∀ node, (∀ child ∈ node.children, motive child) → motive node) :
    ∀ node, motive node
  | ⟨label, table, dataTypes, link, children⟩ =>
    step ⟨label, table, dataTypes, link, children⟩ fun child _ => induct step child

/-- Every node of the tree, its root included, has the property. -/
inductive Everywhere (holds : Node → Prop) : Node → Prop
  | intro {node : Node} : holds node → (∀ child ∈ node.children, Everywhere holds child) →
      Everywhere holds node

namespace Everywhere

variable {holds also : Node → Prop} {node : Node}

theorem here (all : Everywhere holds node) : holds node := by
  cases all with
  | intro own _ => exact own

theorem child (all : Everywhere holds node) {inner : Node} (member : inner ∈ node.children) :
    Everywhere holds inner := by
  cases all with
  | intro _ children => exact children inner member

theorem imp (implies : ∀ node, holds node → also node) (all : Everywhere holds node) :
    Everywhere also node := by
  induction all with
  | intro own _ ih => exact .intro (implies _ own) ih

/-- What holds throughout a tree holds throughout the part below each of its nodes. -/
theorem throughout (all : Everywhere holds node) : Everywhere (Everywhere holds) node := by
  induction all with
  | intro own inside ih => exact .intro (.intro own inside) ih

mutual

def decideAt [DecidablePred holds] : (node : Node) → Decidable (Everywhere holds node)
  | ⟨label, table, dataTypes, link, children⟩ =>
    match inferInstanceAs (Decidable (holds ⟨label, table, dataTypes, link, children⟩)),
      decideAmong children with
    | isTrue own, isTrue inside => isTrue (.intro own inside)
    | isFalse fails, _ => isFalse fun all => fails all.here
    | _, isFalse fails => isFalse fun all => fails fun _ member => all.child member

def decideAmong [DecidablePred holds] :
    (nodes : List Node) → Decidable (∀ child ∈ nodes, Everywhere holds child)
  | [] => isTrue (List.forall_mem_nil _)
  | first :: rest =>
    match decideAt first, decideAmong rest with
    | isTrue own, isTrue others => isTrue (List.forall_mem_cons.mpr ⟨own, others⟩)
    | isFalse fails, _ => isFalse fun all => fails (List.forall_mem_cons.mp all).1
    | _, isFalse fails => isFalse fun all => fails (List.forall_mem_cons.mp all).2

end

instance [DecidablePred holds] (node : Node) : Decidable (Everywhere holds node) := decideAt node

end Everywhere

theorem mem_children_of_child? {node found : Node} {term : String}
    (looked : node.child? term = some found) : found ∈ node.children :=
  mem_of_findKey? looked

/-- A step leads to the child itself, or to the sibling that it is a spelling of. -/
theorem step?_eq (node : Node) (term : String) :
    node.step? term = (node.child? term).bind fun child =>
      match child.link with
      | some (.aliasOf canonical) => node.child? canonical
      | _ => some child := by
  unfold step?
  cases node.child? term with
  | none => rfl
  | some child =>
    cases child.link with
    | none => rfl
    | some link => cases link <;> rfl

theorem step?_of_child? {node child : Node} {term : String}
    (looked : node.child? term = some child) (real : child.isAlias = false) :
    node.step? term = some child := by
  rw [step?_eq, looked, Option.bind_some]
  split
  next target linked => simp [isAlias, linked] at real
  · rfl

theorem mem_children_of_step? {node found : Node} {term : String}
    (stepped : node.step? term = some found) : found ∈ node.children := by
  rw [step?_eq, Option.bind_eq_some_iff] at stepped
  obtain ⟨child, looked, reached⟩ := stepped
  split at reached
  · exact mem_children_of_child? reached
  · cases reached
    exact mem_children_of_child? looked

theorem at?_cons (node : Node) (term : String) (rest : List String) :
    node.at? (term :: rest) = (node.step? term).bind (·.at? rest) := rfl

theorem at?_append (node : Node) (path rest : List String) :
    node.at? (path ++ rest) = (node.at? path).bind (·.at? rest) := by
  induction path generalizing node with
  | nil => rfl
  | cons term others ih =>
    rw [List.cons_append, at?_cons, at?_cons]
    cases node.step? term with
    | none => rfl
    | some next => exact ih next

theorem at?_singleton (node : Node) (term : String) : node.at? [term] = node.step? term := by
  rw [at?_cons]
  cases node.step? term <;> rfl

theorem tableAt?_append (node : Node) (path rest : List String) :
    node.tableAt? (path ++ rest) = (node.at? path).bind (·.tableAt? rest) := by
  unfold tableAt?
  rw [at?_append, Option.bind_assoc]

/-- Letter case plays no part in a lookup. -/
theorem child?_congr (node : Node) {term other : String}
    (same : Text.lowerCase term = Text.lowerCase other) : node.child? term = node.child? other := by
  unfold child?
  rw [same]

theorem at?_congr (node : Node) {path other : List String}
    (same : path.map Text.lowerCase = other.map Text.lowerCase) :
    node.at? path = node.at? other := by
  induction path generalizing node other with
  | nil => rw [List.map_eq_nil_iff.mp same.symm]
  | cons term rest ih =>
    cases other with
    | nil => cases same
    | cons term' rest' =>
      obtain ⟨first, further⟩ := List.cons_eq_cons.mp same
      rw [at?_cons, at?_cons, step?_eq, step?_eq, child?_congr node first]
      exact Option.bind_congr fun next _ => ih next further

/-- A lookup ends inside the tree. -/
theorem Everywhere.at? {holds : Node → Prop} {node found : Node} {path : List String}
    (all : Everywhere holds node) (reached : node.at? path = some found) :
    Everywhere holds found := by
  induction path generalizing node with
  | nil =>
    cases reached
    exact all
  | cons term rest ih =>
    rw [at?_cons, Option.bind_eq_some_iff] at reached
    obtain ⟨next, stepped, further⟩ := reached
    exact ih (all.child (mem_children_of_step? stepped)) further

end Portability.Node
