import Portability.Proofs.Catalog.WellFormed

/-!
# Where a path ends

Many paths lead to one node, since letter case does not matter and another spelling stands for its
term. Two nodes may still be alike in all they hold. What tells nodes apart is their place in the
tree, that is the keys of the nodes on the way to them.
-/
namespace Portability.Node

/-- The keys of the nodes that a path passes, one for each step. -/
def place? (node : Node) : List String → Option (List String)
  | [] => some []
  | term :: rest => (node.step? term).bind fun next => (next.place? rest).map (next.key :: ·)

theorem place?_append (node : Node) (path rest : List String) :
    node.place? (path ++ rest) =
      (node.at? path).bind fun inner => (inner.place? rest).bind fun behind =>
        (node.place? path).map (· ++ behind) := by
  induction path generalizing node with
  | nil => simp [place?, at?]
  | cons term others ih =>
    rw [List.cons_append, place?, place?, at?_cons]
    cases node.step? term with
    | none => rfl
    | some next =>
      simp only [Option.bind_some, ih next, Option.map_bind, Function.comp_def]
      refine Option.bind_congr fun inner _ => Option.bind_congr fun behind _ => ?_
      simp only [Option.map_map, Function.comp_def, List.cons_append]

/-- Just the paths that lead nowhere have no place. -/
theorem place?_eq_none_iff {node : Node} {path : List String} :
    node.place? path = none ↔ node.at? path = none := by
  induction path generalizing node with
  | nil => simp [place?, at?]
  | cons term rest ih =>
    rw [place?, at?_cons]
    cases node.step? term with
    | none => simp
    | some next => simp [ih]

theorem WellFormed.findKey?_of_step? {node next : Node} {term : String} (kept : node.WellFormed)
    (stepped : node.step? term = some next) : findKey? node.children next.key = some next := by
  have stored := kept.stored next (mem_children_of_step? stepped)
  rwa [show Text.lowerCase next.name = next.key from next.label.key_eq.symm] at stored

/-- There is one node at a place, whichever path leads there. -/
theorem at?_eq_of_place? {node : Node} {path other place : List String}
    (kept : node.Everywhere WellFormed) (left : node.place? path = some place)
    (right : node.place? other = some place) : node.at? path = node.at? other := by
  induction path generalizing node other place with
  | nil =>
    cases left
    cases other with
    | nil => rfl
    | cons term rest => simp [place?, Option.bind_eq_some_iff] at right
  | cons term rest ih =>
    obtain ⟨next, stepped, further⟩ := Option.bind_eq_some_iff.mp left
    obtain ⟨tail, below, rfl⟩ := Option.map_eq_some_iff.mp further
    cases other with
    | nil => cases right
    | cons term' rest' =>
      obtain ⟨next', stepped', further'⟩ := Option.bind_eq_some_iff.mp right
      obtain ⟨tail', below', same⟩ := Option.map_eq_some_iff.mp further'
      obtain ⟨sameKey, rfl⟩ := List.cons_eq_cons.mp same
      -- Both steps lead to the one child with that key.
      have first := kept.here.findKey?_of_step? stepped
      rw [← sameKey, kept.here.findKey?_of_step? stepped'] at first
      cases first
      rw [at?_cons, at?_cons, stepped, stepped']
      exact ih (kept.child (mem_children_of_step? stepped)) below below'

theorem at?_eq_of_place?_eq {node : Node} {path other : List String}
    (kept : node.Everywhere WellFormed) (same : node.place? path = node.place? other) :
    node.at? path = node.at? other := by
  cases placed : node.place? other with
  | none => rw [place?_eq_none_iff.mp placed, place?_eq_none_iff.mp (same.trans placed)]
  | some place => exact at?_eq_of_place? kept (same.trans placed) placed

/-- A term is found under its own name beside its siblings. -/
theorem at?_name {root parent child : Node} {path : List String}
    (kept : root.Everywhere WellFormed) (arrived : root.at? path = some parent)
    (member : child ∈ parent.children) (real : child.isAlias = false) :
    root.at? (path ++ [child.name]) = some child := by
  have stored : parent.child? child.name = some child :=
    (kept.at? arrived).here.stored child member
  rw [at?_append, arrived, Option.bind_some, at?_singleton, step?_of_child? stored real]

/-! Spellings of one term beside each other. -/

theorem canonicalName?_singleton (node : Node) (last : String) :
    node.canonicalName? [last] =
      (node.child? last).bind fun child => child.link.map fun link => match link with
        | .canonical => child.name
        | .aliasOf canonical => canonical :=
  canonicalName?_concat node [] last

theorem canonicalName?_append_singleton (node : Node) (path : List String) (last : String) :
    node.canonicalName? (path ++ [last]) = (node.at? path).bind (·.canonicalName? [last]) := by
  rw [canonicalName?_concat]
  exact Option.bind_congr fun parent _ => (canonicalName?_singleton parent last).symm

/-- Only the node where the last steps begin matters for the name of the term at the end. -/
theorem canonicalName?_append (node : Node) (path : List String) {rest : List String}
    (inhabited : rest ≠ []) :
    node.canonicalName? (path ++ rest) = (node.at? path).bind (·.canonicalName? rest) := by
  rcases List.eq_nil_or_concat rest with rfl | ⟨before, last, rfl⟩
  · exact absurd rfl inhabited
  · rw [List.concat_eq_append, ← List.append_assoc, canonicalName?_append_singleton, at?_append,
      Option.bind_assoc]
    refine Option.bind_congr fun inner _ => ?_
    rw [canonicalName?_append_singleton]

/-- Letter case plays no part in the last step either. -/
theorem canonicalName?_congr (node : Node) (path : List String) {last other : String}
    (same : Text.lowerCase last = Text.lowerCase other) :
    node.canonicalName? (path ++ [last]) = node.canonicalName? (path ++ [other]) := by
  rw [canonicalName?_concat, canonicalName?_concat]
  refine Option.bind_congr fun parent _ => ?_
  rw [child?_congr parent same]

/-- A step along any spelling of a term goes to the term. -/
theorem WellFormed.step?_of_canonicalName? {node : Node} {last name : String}
    (kept : node.WellFormed) (named : node.canonicalName? [last] = some name) :
    node.step? last = node.child? name := by
  rw [canonicalName?_singleton] at named
  obtain ⟨child, looked, linked⟩ := Option.bind_eq_some_iff.mp named
  obtain ⟨link, held, result⟩ := Option.map_eq_some_iff.mp linked
  rw [step?_eq, looked, Option.bind_some, held, ← result]
  cases link with
  | canonical => exact (kept.stored child (mem_children_of_child? looked)).symm
  | aliasOf term => rfl

/-- Spellings of one term on the same level have one place. -/
theorem place?_eq_of_canonicalName?_eq {node : Node} {path : List String}
    {first second name : String} (kept : node.Everywhere WellFormed)
    (left : node.canonicalName? (path ++ [first]) = some name)
    (right : node.canonicalName? (path ++ [second]) = some name) :
    node.place? (path ++ [first]) = node.place? (path ++ [second]) := by
  rw [canonicalName?_append_singleton] at left right
  obtain ⟨parent, arrived, leftNamed⟩ := Option.bind_eq_some_iff.mp left
  rw [arrived, Option.bind_some] at right
  have own := (kept.at? arrived).here
  have stepped : parent.step? first = parent.step? second := by
    rw [own.step?_of_canonicalName? leftNamed, own.step?_of_canonicalName? right]
  simp only [place?_append, arrived, Option.bind_some, place?, stepped]

end Portability.Node
