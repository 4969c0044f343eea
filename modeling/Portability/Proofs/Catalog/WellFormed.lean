import Portability.Proofs.Catalog.AliasPass
import Portability.Proofs.Catalog.Reading

/-!
# Trees with other spellings

Whatever the terms, contexts and spellings of a snapshot are called and however they collide, every
other spelling in the tree of a catalog points at a term beside it that is no other spelling itself.
One step along a link therefore always arrives, and always at a term.
-/
namespace Portability

namespace Node

/-- What holds at every node of a catalog. -/
structure WellFormed (node : Node) : Prop where
  /-- A child is found under the lower-case form of its name. -/
  stored : ∀ child ∈ node.children,
    findKey? node.children (Text.lowerCase child.name) = some child
  /-- Another spelling is nothing but a link. -/
  bare : ∀ child ∈ node.children, child.isAlias = true →
    child.children = [] ∧ child.table = none ∧ child.dataTypes = []
  /-- The link leads to a marked term with a table. -/
  answered : ∀ child ∈ node.children, ∀ name, child.link = some (.aliasOf name) →
    ∃ term, node.child? name = some term ∧ term.isAlias = false ∧
      term.link = some .canonical ∧ term.usualTable?.isSome = true
  /-- A marked term has a table. -/
  listed : ∀ child ∈ node.children, child.link = some .canonical →
    child.usualTable?.isSome = true
  contexts : ∀ tables, node.table = some (.byContext tables) → tables ≠ []

theorem findKey?_name {nodes : List Node} (distinct : DistinctKeys nodes) {node : Node}
    (member : node ∈ nodes) : findKey? nodes (Text.lowerCase node.name) = some node := by
  have same : Text.lowerCase node.name = node.key := node.label.key_eq.symm
  rw [same]
  exact findKey?_of_mem distinct member

/-- The link of a node itself is the business of its parent. -/
theorem WellFormed.relinked {node : Node} (kept : node.Everywhere WellFormed)
    (link : Option AliasLink) : ({ node with link } : Node).Everywhere WellFormed :=
  .intro ⟨kept.here.stored, kept.here.bare, kept.here.answered, kept.here.listed,
    kept.here.contexts⟩ fun _ member => kept.child member

theorem marked_wellFormed {node : Node} (kept : node.Everywhere WellFormed) :
    node.marked.Everywhere WellFormed := by
  unfold marked
  split
  · exact WellFormed.relinked kept _
  · exact kept

theorem aliasNode_wellFormed (spelling term : String) :
    (aliasNode spelling term).Everywhere WellFormed := by
  refine .intro ⟨?_, ?_, ?_, ?_, ?_⟩ ?_ <;> simp [aliasNode]

theorem marked_usualTable? (node : Node) : node.marked.usualTable? = node.usualTable? := by
  unfold marked
  split <;> rfl

theorem marked_name (node : Node) : node.marked.name = node.name := by
  unfold marked
  split <;> rfl

/-- A child after the pass is a term, marked if it has other spellings, or one of those. -/
theorem mem_withSpellings_cases {siblings : List Node}
    (unlinked : ∀ node ∈ siblings, node.link = none) {child : Node}
    (member : child ∈ withSpellings siblings) :
    (∃ node ∈ siblings, child = node.marked ∧ child.isAlias = false ∧
      (child.link = some .canonical → node.spelled?.isSome = true)) ∨
    (∃ term ∈ siblings, term.spelled?.isSome = true ∧
      ∃ spelling, child = aliasNode spelling term.name) := by
  obtain ⟨fresh, among, result⟩ := withSpellings_eq_append siblings
  rw [result] at member
  rcases List.mem_append.mp member with old | new
  · left
    obtain ⟨node, present, rfl⟩ := List.mem_map.mp old
    refine ⟨node, present, rfl, ?_⟩
    unfold marked
    split
    next spelled => exact ⟨rfl, fun _ => spelled⟩
    · simp [isAlias, unlinked node present]
  · right
    obtain ⟨term, present, spelled, _, spelling, same⟩ :=
      exists_of_mem_declared (among.subset new)
    exact ⟨term, present, spelled, spelling, same⟩

/-- The term behind another spelling is found beside it. -/
theorem findKey?_term {siblings : List Node} (distinct : DistinctKeys siblings) {term : Node}
    (present : term ∈ siblings) :
    findKey? (withSpellings siblings) (Text.lowerCase term.name) = some term.marked := by
  obtain ⟨fresh, _, result⟩ := withSpellings_eq_append siblings
  have member : term.marked ∈ withSpellings siblings := by
    rw [result]
    exact List.mem_append_left _ (List.mem_map_of_mem present)
  rw [← marked_name]
  exact findKey?_name (withSpellings_distinct distinct) member

/-- The step: what the pass makes of the children of one plain node is well formed there. -/
theorem withSpellings_wellFormed {node : Node} {siblings : List Node}
    (distinct : DistinctKeys siblings) (unlinked : ∀ sibling ∈ siblings, sibling.link = none)
    (children : node.children = withSpellings siblings)
    (contexts : ∀ tables, node.table = some (.byContext tables) → tables ≠ []) :
    node.WellFormed where
  stored := fun child member => by
    rw [children] at member ⊢
    exact findKey?_name (withSpellings_distinct distinct) member
  bare := fun child member linked => by
    rw [children] at member
    rcases mem_withSpellings_cases unlinked member with ⟨_, _, _, real, _⟩ | ⟨_, _, _, _, same⟩
    · rw [real] at linked
      cases linked
    · rw [same]
      exact ⟨rfl, rfl, rfl⟩
  answered := fun child member name link => by
    rw [children] at member
    rcases mem_withSpellings_cases unlinked member with
      ⟨_, _, _, real, _⟩ | ⟨term, present, spelled, spelling, same⟩
    · simp [isAlias, link] at real
    · have named : term.name = name := by
        rw [same] at link
        simpa [aliasNode] using link
      refine ⟨term.marked, ?_, ?_, ?_, ?_⟩
      · rw [← named, child?, children]
        exact findKey?_term distinct present
      · simp [marked, spelled, isAlias]
      · simp [marked, spelled]
      · rw [marked_usualTable?]
        exact isSome_spelled?_usualTable? spelled
  listed := fun child member link => by
    rw [children] at member
    rcases mem_withSpellings_cases unlinked member with
      ⟨original, _, same, _, spelled⟩ | ⟨_, _, _, _, same⟩
    · rw [same, marked_usualTable?]
      exact isSome_spelled?_usualTable? (spelled link)
    · rw [same] at link
      cases link
  contexts := contexts

/-- The run: adding other spellings to a plain tree makes it well formed throughout. -/
theorem withAliases_wellFormed {node : Node} (plain : node.Everywhere Plain) :
    node.withAliases.1.Everywhere WellFormed := by
  induction node using induct with
  | step node ih =>
    have distinct : DistinctKeys (node.children.map deepened) :=
      plain.here.distinct.map deepened deepened_key
    have unlinked : ∀ sibling ∈ node.children.map deepened, sibling.link = none := by
      intro sibling member
      obtain ⟨child, present, rfl⟩ := List.mem_map.mp member
      rw [deepened_link]
      exact (plain.child present).here.unlinked
    have children := withAliases_children plain.here.distinct
    refine .intro ?_ fun child member => ?_
    · refine withSpellings_wellFormed distinct unlinked children fun tables held => ?_
      rw [withAliases_table] at held
      exact plain.here.contexts tables held
    · rw [children] at member
      rcases mem_withSpellings_cases unlinked member with
        ⟨sibling, present, same, _⟩ | ⟨_, _, _, spelling, same⟩
      · obtain ⟨original, inside, deep⟩ := List.mem_map.mp present
        have real := (plain.child inside).here.isAlias
        have below := ih original inside (plain.child inside)
        -- The mark that a term got after the pass below it says nothing of what is below.
        rw [same, ← deep, deepened, real, if_neg Bool.false_ne_true]
        exact marked_wellFormed below
      · rw [same]
        exact aliasNode_wellFormed _ _

/-! Lookups in a well-formed tree. -/

theorem WellFormed.step?_cases {node found : Node} {term : String} (kept : node.WellFormed)
    (looked : node.child? term = some found) :
    ∃ reached, node.step? term = some reached ∧ reached.isAlias = false := by
  rw [step?_eq, looked, Option.bind_some]
  split
  next name link =>
    have member := mem_children_of_child? looked
    obtain ⟨reached, present, real, _⟩ := kept.answered found member name link
    exact ⟨reached, present, real⟩
  next other =>
    refine ⟨found, rfl, ?_⟩
    unfold isAlias
    split
    next name link => exact absurd link (other name)
    · rfl

/-- No step ends at another spelling. -/
theorem WellFormed.isAlias_of_step? {node reached : Node} {term : String} (kept : node.WellFormed)
    (stepped : node.step? term = some reached) : reached.isAlias = false := by
  cases looked : node.child? term with
  | none => simp [step?_eq, looked] at stepped
  | some found =>
    obtain ⟨arrived, result, real⟩ := kept.step?_cases looked
    rw [stepped] at result
    exact Option.some.inj result ▸ real

theorem isAlias_of_at? {node reached : Node} {path : List String}
    (kept : node.Everywhere WellFormed) (real : node.isAlias = false)
    (arrived : node.at? path = some reached) : reached.isAlias = false := by
  induction path generalizing node with
  | nil =>
    cases arrived
    exact real
  | cons term rest ih =>
    rw [at?_cons, Option.bind_eq_some_iff] at arrived
    obtain ⟨next, stepped, further⟩ := arrived
    exact ih (kept.child (mem_children_of_step? stepped)) (kept.here.isAlias_of_step? stepped)
      further

/-- A table source always gives a table to use. -/
theorem WellFormed.isSome_usualTable?_iff {node : Node} (kept : node.WellFormed) :
    node.usualTable?.isSome = node.table.isSome := by
  unfold usualTable?
  cases held : node.table with
  | none => rfl
  | some source =>
    cases source with
    | direct table => rfl
    | byContext tables =>
      cases tables with
      | nil => exact absurd rfl (kept.contexts [] held)
      | cons first rest => rfl

theorem canonicalName?_concat (node : Node) (path : List String) (last : String) :
    node.canonicalName? (path ++ [last]) =
      (node.at? path).bind fun parent => (parent.child? last).bind fun child =>
        child.link.map fun link => match link with
          | .canonical => child.name
          | .aliasOf canonical => canonical := by
  unfold canonicalName?
  rw [List.getLast?_concat, List.dropLast_concat]
  simp only [Option.bind_eq_bind, Option.bind_some]
  refine Option.bind_congr fun parent _ => Option.bind_congr fun child _ => ?_
  cases child.link with
  | none => rfl
  | some link => cases link <;> rfl

/-- A path to a term with several spellings leads to a table. -/
theorem isSome_tableAt? {node : Node} {path : List String} {name : String}
    (kept : node.Everywhere WellFormed) (named : node.canonicalName? path = some name) :
    (node.tableAt? path).isSome = true := by
  rcases List.eq_nil_or_concat path with rfl | ⟨before, last, rfl⟩
  · cases named
  · rw [List.concat_eq_append, canonicalName?_concat] at named
    obtain ⟨parent, arrived, inside⟩ := Option.bind_eq_some_iff.mp named
    obtain ⟨child, looked, linked⟩ := Option.bind_eq_some_iff.mp inside
    obtain ⟨link, held, _⟩ := Option.map_eq_some_iff.mp linked
    have own := (kept.at? arrived).here
    have member := mem_children_of_child? looked
    rw [List.concat_eq_append, tableAt?, at?_append, arrived, Option.bind_some, at?_singleton,
      step?_eq, looked, Option.bind_some, held]
    -- A marked term has a table itself, another spelling has that of its term.
    cases link with
    | canonical => exact own.listed child member held
    | aliasOf canonical =>
      obtain ⟨term, found, _, _, listed⟩ := own.answered child member canonical held
      dsimp only
      rw [found]
      exact listed

end Node

namespace Catalog

open Node

theorem root_wellFormed {json : Json} {catalog : Catalog} (built : ofJson json = .ok catalog) :
    catalog.root.Everywhere WellFormed := by
  obtain ⟨node, plain, result⟩ := exists_plain_of_ofJson built
  rw [result]
  exact withAliases_wellFormed plain

theorem root_isAlias {json : Json} {catalog : Catalog} (built : ofJson json = .ok catalog) :
    catalog.root.isAlias = false := by
  obtain ⟨node, plain, result⟩ := exists_plain_of_ofJson built
  rw [result]
  unfold isAlias
  rw [withAliases_link]
  exact plain.here.isAlias

theorem hasTable_iff {json : Json} {catalog : Catalog} (built : ofJson json = .ok catalog)
    (path : List String) :
    catalog.hasTable path = true ↔
      ∃ node, catalog.root.at? path = some node ∧ node.table.isSome = true := by
  unfold hasTable tableAt?
  cases arrived : catalog.root.at? path with
  | none => simp
  | some node =>
    have kept := ((root_wellFormed built).at? arrived).here
    simp [kept.isSome_usualTable?_iff]

/--
Every node of a catalog is well formed. So no path ends at another spelling, whatever is found among
the children of a node can be stepped to, and a path has a table exactly if the node at its end has
a table source.
-/
theorem links_reach_terms {json : Json} {catalog : Catalog} (built : ofJson json = .ok catalog) :
    catalog.root.Everywhere WellFormed ∧
    (∀ path node, catalog.root.at? path = some node → node.isAlias = false) ∧
    (catalog.root.Everywhere fun node =>
      ∀ term, (node.child? term).isSome = true → (node.step? term).isSome = true) ∧
    (∀ path, catalog.hasTable path = true ↔
      ∃ node, catalog.root.at? path = some node ∧ node.table.isSome = true) := by
  have kept := root_wellFormed built
  refine ⟨kept, ?_, ?_, hasTable_iff built⟩
  · intro path node arrived
    exact isAlias_of_at? kept (root_isAlias built) arrived
  · refine kept.imp fun node own term present => ?_
    obtain ⟨found, looked⟩ := Option.isSome_iff_exists.mp present
    obtain ⟨reached, stepped, _⟩ := own.step?_cases looked
    rw [stepped]
    rfl

/--
A snapshot in which a prefix and another name give spellings, a context gives a table, a spelling
meets a term in capitals, and a value has a spelling of its own.
-/
def sample : Json :=
  let compat (support : List (String × Json)) : String × Json :=
    ("__compat", .object [("support", .object support)])
  let record (version : String) (more : List (String × Json)) : Json :=
    .object (("version_added", .text version) :: more)
  let vendor (text : String) : String × Json := ("prefix", .text text)
  .object [("css", .object [("properties", .object [
    ("user-select", .object [compat [
      ("firefox", .list [record "69" [], record "1" [vendor "-moz-"]]),
      ("safari", record "3" [vendor "-webkit-"])]]),
    ("overflow-wrap", .object [compat [
      ("firefox", .list [
        record "49" [], record "3.5" [("alternative_name", .text "word-wrap")]])]]),
    ("align-items", .object [
      ("grid_context", .object []),
      ("flex_context", .object [compat [("safari", record "7" [vendor "-webkit-"])]])]),
    ("-WEBKIT-align-items", .object []),
    ("display", .object [compat [("chrome", record "1" [])],
      ("flex", .object [compat [
        ("chrome", .list [record "29" [], record "21" [vendor "-webkit-"]])]])])])])]

theorem isSome_sample : (ofJson sample).toOption.isSome = true := by decide

def sampleCatalog : Catalog := (ofJson sample).toOption.get isSome_sample

theorem ofJson_sample : ofJson sample = .ok sampleCatalog := by rfl

theorem links_reach_terms_sample :
    ofJson sample = .ok sampleCatalog ∧
    (sampleCatalog.root.Everywhere WellFormed ∧
    (∀ path node, sampleCatalog.root.at? path = some node → node.isAlias = false) ∧
    (sampleCatalog.root.Everywhere fun node =>
      ∀ term, (node.child? term).isSome = true → (node.step? term).isSome = true) ∧
    (∀ path, sampleCatalog.hasTable path = true ↔
      ∃ node, sampleCatalog.root.at? path = some node ∧ node.table.isSome = true)) :=
  ⟨ofJson_sample, links_reach_terms ofJson_sample⟩

/-- The spelling in lower case leads to the term, and the one that is a term already to that. -/
example :
    (sampleCatalog.root.at? ["css", "properties", "-Moz-User-Select"]).map name =
      some "user-select" ∧
    (sampleCatalog.root.at? ["css", "properties", "-webkit-align-items"]).map name =
      some "-WEBKIT-align-items" := by decide

end Catalog

end Portability
