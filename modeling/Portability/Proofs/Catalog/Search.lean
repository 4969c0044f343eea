import Portability.Proofs.Catalog.WellFormed
import Portability.Proofs.Text.Lowered

/-!
# Searching below a node

A search walks the keys of the nodes below a node and follows no links; a lookup lowers each step
again and follows a link wherever it meets one. In the tree of a catalog the two agree: only terms
have nodes below them, so a search passes no other spelling on its way, and at its end a lookup goes
on from another spelling to the term.

A node is placed by the positions of the nodes on the way to it. Pre-order is the order in which a
dictionary has these: a node comes before all that is below it, and what is below one sibling comes
before the next sibling.
-/
namespace Portability.Node

/-- The nodes among some siblings and below them: positions and keys on the way, and the node. -/
inductive Among : List Node → List Nat → List String → Node → Prop
  | here {nodes : List Node} {node : Node} {position : Nat}
      (stands : nodes[position]? = some node) : Among nodes [position] [node.key] node
  | under {nodes : List Node} {node found : Node} {position : Nat} {positions : List Nat}
      {path : List String} (stands : nodes[position]? = some node)
      (further : Among node.children positions path found) :
      Among nodes (position :: positions) (node.key :: path) found

/-- The first node with a key, in pre-order, among some siblings and the nodes below them. -/
def FirstAmong (nodes : List Node) (key : String) (path : List String) (found : Node) : Prop :=
  ∃ positions, Among nodes positions path found ∧ found.key = key ∧
    ∀ others place other, Among nodes others place other → other.key = key →
      others = positions ∨ List.Lex (· < ·) positions others

variable {nodes rest : List Node} {first found other : Node} {positions others : List Nat}
  {path place : List String} {key : String}

theorem not_among_nil : ¬Among [] positions path found := by
  intro inside
  cases inside with
  | here stands => simp at stands
  | under stands _ => simp at stands

theorem among_cons_iff :
    Among (first :: rest) positions path found ↔
      (positions = [0] ∧ path = [first.key] ∧ found = first) ∨
      (∃ inner tail, positions = 0 :: inner ∧ path = first.key :: tail ∧
        Among first.children inner tail found) ∨
      ∃ position inner, positions = (position + 1) :: inner ∧
        Among rest (position :: inner) path found := by
  constructor
  · intro inside
    cases inside with
    | @here _ node position stands =>
      cases position with
      | zero =>
        cases stands
        exact .inl ⟨rfl, rfl, rfl⟩
      | succ position => exact .inr (.inr ⟨position, [], rfl, .here stands⟩)
    | @under _ node _ position inner tail stands further =>
      cases position with
      | zero =>
        cases stands
        exact .inr (.inl ⟨inner, tail, rfl, rfl, further⟩)
      | succ position => exact .inr (.inr ⟨position, inner, rfl, .under stands further⟩)
  · rintro (⟨rfl, rfl, rfl⟩ | ⟨inner, tail, rfl, rfl, further⟩ | ⟨position, inner, rfl, inside⟩)
    · exact .here rfl
    · exact .under rfl further
    · cases inside with
      | here stands => exact .here stands
      | under stands further => exact .under stands further

theorem Among.ne_nil (inside : Among nodes positions path found) : path ≠ [] := by
  cases inside <;> simp

/-- The positions on the way to a node determine the node, and the keys on the way. -/
theorem Among.unique (inside : Among nodes positions path found)
    (again : Among nodes positions place other) : path = place ∧ found = other := by
  induction inside generalizing place with
  | here stands =>
    cases again with
    | here stands' =>
      rw [stands] at stands'
      cases stands'
      exact ⟨rfl, rfl⟩
    | under stands' further => cases further
  | under stands further ih =>
    cases again with
    | here stands' => cases further
    | under stands' further' =>
      rw [stands] at stands'
      cases stands'
      obtain ⟨rfl, rfl⟩ := ih further'
      exact ⟨rfl, rfl⟩

theorem FirstAmong.unique (one : FirstAmong nodes key path found)
    (two : FirstAmong nodes key place other) : path = place ∧ found = other := by
  obtain ⟨positions, inside, held, least⟩ := one
  obtain ⟨others, inside', held', least'⟩ := two
  -- Each comes no later than the other, and of two places only one comes before the other.
  have same : others = positions := by
    rcases least others place other inside' held' with same | before
    · exact same
    · rcases least' positions path found inside held with same | behind
      · exact same.symm
      · exact absurd behind (List.lex_asymm Nat.lt_asymm before)
  subst same
  exact inside.unique inside'

/-! The three steps of a search: a node itself, the nodes below it, its siblings behind it. -/

theorem firstAmong_head (own : first.key = key) :
    FirstAmong (first :: rest) key [first.key] first := by
  refine ⟨[0], .here rfl, own, ?_⟩
  intro others place other inside _
  rcases among_cons_iff.mp inside with ⟨same, _⟩ | ⟨inner, tail, same, _, further⟩ |
    ⟨position, inner, same, _⟩
  · exact .inl same
  · right
    rw [same]
    cases further <;> exact .cons .nil
  · right
    rw [same]
    exact .rel (Nat.succ_pos position)

theorem FirstAmong.below (different : first.key ≠ key)
    (inner : FirstAmong first.children key path found) :
    FirstAmong (first :: rest) key (first.key :: path) found := by
  obtain ⟨positions, inside, held, least⟩ := inner
  refine ⟨0 :: positions, .under rfl inside, held, ?_⟩
  intro others place other among named
  rcases among_cons_iff.mp among with ⟨_, _, rfl⟩ | ⟨inner, tail, rfl, _, further⟩ |
    ⟨position, inner, rfl, _⟩
  · exact absurd named different
  · rcases least inner tail other further named with rfl | before
    · exact .inl rfl
    · exact .inr (.cons before)
  · exact .inr (.rel (Nat.succ_pos position))

theorem FirstAmong.behind (different : first.key ≠ key)
    (missed : ∀ positions path found, Among first.children positions path found → found.key ≠ key)
    (later : FirstAmong rest key path found) : FirstAmong (first :: rest) key path found := by
  obtain ⟨positions, inside, held, least⟩ := later
  obtain ⟨position, inner, rfl⟩ : ∃ position inner, positions = position :: inner := by
    cases inside <;> exact ⟨_, _, rfl⟩
  refine ⟨(position + 1) :: inner, among_cons_iff.mpr (.inr (.inr ⟨_, _, rfl, inside⟩)), held, ?_⟩
  intro others place other among named
  rcases among_cons_iff.mp among with ⟨_, _, rfl⟩ | ⟨_, _, _, _, further⟩ |
    ⟨position', inner', rfl, among'⟩
  · exact absurd named different
  · exact absurd named (missed _ _ _ further)
  · -- Both positions grow by one, which changes nothing about their order.
    rcases least _ place other among' named with same | before
    · cases same
      exact .inl rfl
    · right
      cases before with
      | rel less => exact .rel (Nat.succ_lt_succ less)
      | cons before => exact .cons before

/-! A run of the search, over a node and over siblings. -/

mutual

theorem pathBelow?_cases (key : String) : ∀ node : Node,
    (pathBelow? key node = none ∧
      ∀ positions path found, Among node.children positions path found → found.key ≠ key) ∨
    ∃ path found, pathBelow? key node = some path ∧ FirstAmong node.children key path found
  | ⟨_, _, _, _, children⟩ => by
    rw [pathBelow?]
    exact pathAmong?_cases key children

theorem pathAmong?_cases (key : String) : ∀ nodes : List Node,
    (pathAmong? key nodes = none ∧
      ∀ positions path found, Among nodes positions path found → found.key ≠ key) ∨
    ∃ path found, pathAmong? key nodes = some path ∧ FirstAmong nodes key path found
  | [] => .inl ⟨rfl, fun _ _ _ inside => absurd inside not_among_nil⟩
  | first :: rest => by
    by_cases own : first.key = key
    · right
      exact ⟨[first.key], first, by simp [pathAmong?, own], firstAmong_head own⟩
    · -- The siblings behind are looked at only where the node and all below it are missed.
      rcases pathBelow?_cases key first with ⟨nothing, missed⟩ | ⟨path, found, searched, inner⟩
      · have onward : pathAmong? key (first :: rest) = pathAmong? key rest := by
          simp [pathAmong?, own, nothing]
        rw [onward]
        rcases pathAmong?_cases key rest with ⟨nothing', missed'⟩ | ⟨path, found, searched, later⟩
        · left
          refine ⟨nothing', fun positions path found inside => ?_⟩
          rcases among_cons_iff.mp inside with ⟨_, _, rfl⟩ | ⟨_, _, _, _, further⟩ |
            ⟨_, _, _, inside'⟩
          · exact own
          · exact missed _ _ _ further
          · exact missed' _ _ _ inside'
        · right
          exact ⟨path, found, searched, later.behind own missed⟩
      · right
        exact ⟨first.key :: path, found, by simp [pathAmong?, own, searched], inner.below own⟩

end

theorem pathTo?_eq_some_iff {node : Node} {term : String} :
    node.pathTo? term = some path ↔
      ∃ found, FirstAmong node.children (Text.lowerCase term) path found := by
  unfold pathTo?
  rcases pathBelow?_cases (Text.lowerCase term) node with
    ⟨nothing, missed⟩ | ⟨path', found', searched, first⟩
  · rw [nothing]
    constructor
    · intro never
      cases never
    · rintro ⟨found, positions, inside, held, _⟩
      exact absurd held (missed positions path found inside)
  · rw [searched]
    constructor
    · intro same
      cases same
      exact ⟨found', first⟩
    · rintro ⟨found, again⟩
      rw [(first.unique again).1]

theorem isSome_pathTo?_iff {node : Node} {term : String} :
    (node.pathTo? term).isSome = true ↔
      ∃ positions path found, Among node.children positions path found ∧
        found.key = Text.lowerCase term := by
  rw [Option.isSome_iff_exists]
  constructor
  · rintro ⟨path, searched⟩
    obtain ⟨found, positions, inside, held, _⟩ := pathTo?_eq_some_iff.mp searched
    exact ⟨positions, path, found, inside, held⟩
  · rintro ⟨positions, path, found, inside, held⟩
    unfold pathTo?
    rcases pathBelow?_cases (Text.lowerCase term) node with ⟨_, missed⟩ | ⟨path', _, searched, _⟩
    · exact absurd held (missed positions path found inside)
    · exact ⟨path', searched⟩

theorem ne_nil_of_pathTo? {node : Node} {term : String} (searched : node.pathTo? term = some path) :
    path ≠ [] := by
  obtain ⟨found, positions, inside, _⟩ := pathTo?_eq_some_iff.mp searched
  exact inside.ne_nil

/-! Looking up what a search has found. -/

/-- In lower case a key leads to the child that is stored under it. -/
theorem WellFormed.child?_key {node child : Node} (kept : node.WellFormed)
    (member : child ∈ node.children) : node.child? child.key = some child := by
  have lowered : Text.lowerCase child.key = Text.lowerCase child.name := by
    rw [show child.key = Text.lowerCase child.name from child.label.key_eq,
      Text.lowerCase_lowerCase]
  rw [child?, lowered]
  exact kept.stored child member

/-- Only a term has nodes below it. -/
theorem WellFormed.isAlias_of_among {node child : Node} (kept : node.WellFormed)
    (member : child ∈ node.children) (inside : Among child.children positions path found) :
    child.isAlias = false := by
  cases linked : child.isAlias with
  | false => rfl
  | true =>
    rw [(kept.bare child member linked).1] at inside
    exact absurd inside not_among_nil

/-- A lookup comes to the parent of the node that it looks for, and makes its last step there. -/
theorem exists_parent_of_among {node : Node} (kept : node.Everywhere WellFormed)
    (inside : Among node.children positions path found) :
    ∃ parent, node.at? path.dropLast = some parent ∧ found ∈ parent.children ∧
      node.at? path = parent.step? found.key := by
  generalize children : node.children = nodes at inside
  induction inside generalizing node with
  | @here nodes child position stands =>
    refine ⟨node, rfl, ?_, at?_singleton node child.key⟩
    rw [children]
    exact List.mem_of_getElem? stands
  | @under nodes child found position positions path stands further ih =>
    have member : child ∈ node.children := by
      rw [children]
      exact List.mem_of_getElem? stands
    -- There are nodes below it, so the child is a term, and the lookup stays with it.
    have stepped : node.step? child.key = some child :=
      step?_of_child? (kept.here.child?_key member) (kept.here.isAlias_of_among member further)
    obtain ⟨parent, arrived, among, last⟩ := ih (kept.child member) rfl
    refine ⟨parent, ?_, among, ?_⟩
    · rw [List.dropLast_cons_of_ne_nil further.ne_nil, at?_cons, stepped]
      exact arrived
    · rw [at?_cons, stepped]
      exact last

/-- Whether a path leads to a node, or from another spelling to the term beside it. -/
def LeadsTo (node : Node) (path : List String) (found : Node) : Prop :=
  ∃ parent, node.at? path.dropLast = some parent ∧ found ∈ parent.children ∧
    match found.link with
    | some (.aliasOf canonical) =>
      ∃ term, parent.child? canonical = some term ∧ term.link = some .canonical ∧
        node.at? path = some term
    | _ => node.at? path = some found

theorem leadsTo_of_among {node : Node} (kept : node.Everywhere WellFormed)
    (inside : Among node.children positions path found) : node.LeadsTo path found := by
  obtain ⟨parent, arrived, member, last⟩ := exists_parent_of_among kept inside
  have own := (kept.at? arrived).here
  have stepped := step?_eq parent found.key
  rw [own.child?_key member, Option.bind_some] at stepped
  refine ⟨parent, arrived, member, ?_⟩
  -- The last step is the only one that may follow a link.
  rw [last, stepped]
  cases linked : found.link with
  | none => rfl
  | some link =>
    cases link with
    | canonical => rfl
    | aliasOf canonical =>
      obtain ⟨term, looked, _, marked, _⟩ := own.answered found member canonical linked
      exact ⟨term, looked, marked, looked⟩

end Portability.Node

namespace Portability.Catalog

open Node

/--
A search below a node finds something just if some node below it has the key, and then it gives the
keys on the way to the first such node in pre-order. From any node of a catalog these keys lead to
the node that was found, or to the term beside it if it is another spelling.
-/
theorem search_finds_first {json : Json} {catalog : Catalog} (built : ofJson json = .ok catalog) :
    (∀ (node : Node) (term : String),
      ((node.pathTo? term).isSome = true ↔
        ∃ positions path found, Among node.children positions path found ∧
          found.key = Text.lowerCase term) ∧
      ∀ path, node.pathTo? term = some path ↔
        ∃ found, FirstAmong node.children (Text.lowerCase term) path found) ∧
    catalog.root.Everywhere fun node => ∀ term path found,
      FirstAmong node.children (Text.lowerCase term) path found → node.LeadsTo path found := by
  constructor
  · intro node term
    exact ⟨isSome_pathTo?_iff, fun path => pathTo?_eq_some_iff⟩
  · apply (root_wellFormed built).throughout.imp
    rintro node kept term path found ⟨positions, inside, _⟩
    exact leadsTo_of_among kept inside

/-- Another spelling is found in any letter case, and its keys lead to the term. -/
theorem search_finds_first_sample :
    ofJson sample = .ok sampleCatalog ∧
    ∃ found, FirstAmong sampleCatalog.root.children (Text.lowerCase "-Webkit-FLEX")
        ["css", "properties", "display", "-webkit-flex"] found ∧
      sampleCatalog.root.LeadsTo ["css", "properties", "display", "-webkit-flex"] found := by
  obtain ⟨searches, leads⟩ := search_finds_first ofJson_sample
  have searched : sampleCatalog.root.pathTo? "-Webkit-FLEX" =
      some ["css", "properties", "display", "-webkit-flex"] := by decide
  obtain ⟨found, first⟩ := ((searches sampleCatalog.root "-Webkit-FLEX").2 _).mp searched
  exact ⟨ofJson_sample, found, first, leads.here _ _ found first⟩

end Portability.Catalog
