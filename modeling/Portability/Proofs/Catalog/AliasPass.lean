import Portability.Catalog.Alias
import Portability.Proofs.Catalog.Tree

/-!
# What adding other spellings does

Among the children of one node the pass marks the terms that have other spellings and then puts the
nodes of all those spellings behind the children, the first for each key that is still free. The
marks and the new nodes can be told from the children alone, and the counts from the children and
the result. This closed form stands in for the pass in all that follows.
-/
namespace Portability

theorem AliasCount.eq_of_fields {left right : AliasCount} (terms : left.terms = right.terms)
    (spellings : left.spellings = right.spellings) : left = right := by
  cases left
  cases right
  simp_all

@[simp] theorem AliasCount.terms_add (left right : AliasCount) :
    (left + right).terms = left.terms + right.terms := rfl

@[simp] theorem AliasCount.spellings_add (left right : AliasCount) :
    (left + right).spellings = left.spellings + right.spellings := rfl

theorem AliasCount.add_assoc (first second third : AliasCount) :
    first + second + third = first + (second + third) :=
  eq_of_fields (by simp [Nat.add_assoc]) (by simp [Nat.add_assoc])

theorem AliasCount.empty_add (count : AliasCount) : {} + count = count :=
  eq_of_fields (by simp) (by simp)

theorem AliasCount.add_empty (count : AliasCount) : count + {} = count :=
  eq_of_fields (by simp) (by simp)

namespace Node

/-- The term of which a node is another spelling. -/
def target? (node : Node) : Option String :=
  match node.link with
  | some (.aliasOf term) => some term
  | _ => none

theorem target?_eq_some_iff (node : Node) (term : String) :
    node.target? = some term ↔ node.link = some (.aliasOf term) := by
  unfold target?
  cases node.link with
  | none => simp
  | some link => cases link <;> simp

theorem isAlias_eq (node : Node) : node.isAlias = node.target?.isSome := by
  unfold isAlias target?
  cases node.link with
  | none => rfl
  | some link => cases link <;> rfl

theorem target?_of_not_isAlias {node : Node} (real : node.isAlias = false) :
    node.target? = none := by
  rw [isAlias_eq] at real
  exact Option.isSome_eq_false_iff.mp real |> Option.isNone_iff_eq_none.mp

/-- What a key means among siblings: nothing yet, a term, or another spelling of a term. -/
def owner? (nodes : List Node) (key : String) : Option (Option String) :=
  (findKey? nodes key).map target?

theorem owner?_foldl_insert (nodes added : List Node) (key : String) :
    owner? (added.foldl insert nodes) key = (owner? nodes key).or (owner? added key) := by
  simp only [owner?, findKey?_foldl_insert]
  cases findKey? nodes key <;> rfl

theorem mem_keys_of_owner? {nodes : List Node} {key : String} {meaning : Option String}
    (owned : owner? nodes key = some meaning) : key ∈ nodes.map Node.key := by
  by_contra absent
  simp [owner?, (findKey?_eq_none_iff _ _).mpr absent] at owned

/-- How many of the added nodes ended up as the meaning of their keys. -/
def granted (nodes added : List Node) : Nat :=
  added.countP fun node => owner? nodes node.key == some node.target?

/-! The terms with other spellings, their marks, and the nodes of those spellings. -/

def Spelled.nodes (term : Spelled) : List Node := term.others.map (aliasNode · term.label.text)

/-- The nodes that these siblings ask for, in their order. -/
def declared (siblings : List Node) : List Node :=
  (siblings.filterMap spelled?).flatMap Spelled.nodes

/-- Marks the nodes with these keys as terms with other spellings. -/
def markKeys (keys : List String) (node : Node) : Node :=
  if node.key ∈ keys then { node with link := some .canonical } else node

/-- The node with its mark, if it is a term with other spellings. -/
def marked (node : Node) : Node :=
  if node.spelled?.isSome then { node with link := some .canonical } else node

theorem markKeys_key (keys : List String) (node : Node) : (markKeys keys node).key = node.key := by
  unfold markKeys
  split <;> rfl

theorem marked_key (node : Node) : node.marked.key = node.key := by
  unfold marked
  split <;> rfl

theorem markKeys_cons (first : String) (rest : List String) (node : Node) :
    markKeys rest (markKeys [first] node) = markKeys (first :: rest) node := by
  by_cases same : node.key = first
  · by_cases later : node.key ∈ rest <;> simp_all [markKeys, key]
  · by_cases later : node.key ∈ rest <;> simp_all [markKeys]

theorem owner?_markKeys {keys : List String} {nodes : List Node} (key : String)
    (real : ∀ marked ∈ keys, owner? nodes marked = some none) :
    owner? (nodes.map (markKeys keys)) key = owner? nodes key := by
  unfold owner?
  rw [findKey?_map _ (markKeys_key keys)]
  cases found : findKey? nodes key with
  | none => rfl
  | some node =>
    by_cases chosen : node.key ∈ keys
    · have meaning := real node.key chosen
      rw [key_of_findKey? found, owner?, found] at meaning
      simpa [markKeys, chosen, target?] using meaning.symm
    · simp [markKeys, chosen]

/-- A term has other spellings only if it is no spelling of another term, nor a context. -/
theorem isAlias_of_spelled? {node : Node} {term : Spelled} (spelled : node.spelled? = some term) :
    node.isAlias = false ∧ term.label = node.label := by
  unfold spelled? at spelled
  split at spelled
  · cases spelled
  next own =>
    have real : node.isAlias = false := by simp_all
    split at spelled
    · split at spelled
      · cases spelled
      · cases spelled
        exact ⟨real, rfl⟩
    · cases spelled

theorem isSome_spelled?_usualTable? {node : Node} (spelled : node.spelled?.isSome) :
    node.usualTable?.isSome := by
  unfold spelled? at spelled
  split at spelled
  · cases spelled
  · split at spelled
    next table listed => simp [listed]
    · cases spelled

/-! One spelling, then the spellings of one term, then those of all terms. -/

theorem addSpelling_eq {term : Label} {nodes : List Node} (count : AliasCount) (spelling : String)
    (real : owner? nodes term.key = some none) :
    addSpelling term (nodes, count) spelling =
      (insert nodes (aliasNode spelling term.text),
        count + ⟨0, granted (insert nodes (aliasNode spelling term.text))
          [aliasNode spelling term.text]⟩) := by
  unfold addSpelling
  have own : (aliasNode spelling term.text).target? = some term.text := rfl
  generalize aliasNode spelling term.text = added at own ⊢
  have meaning : owner? (insert nodes added) added.key =
      (owner? nodes added.key).or (some (some term.text)) := by
    simpa [owner?, findKey?, own] using owner?_foldl_insert nodes [added] added.key
  simp only [granted, List.countP_singleton, meaning, own]
  by_cases itself : added.key = term.key
  · -- The term is found under its own key, so nothing is added and nothing counted.
    have taken : added.key ∈ nodes.map key := itself ▸ mem_keys_of_owner? real
    rw [if_pos itself, insert_of_taken taken, itself, real]
    exact Prod.ext rfl (AliasCount.add_empty count).symm
  · rw [if_neg itself]
    cases found : findKey? nodes added.key with
    | none =>
      have free := (findKey?_eq_none_iff _ _).mp found
      rw [insert_of_free free]
      simp [owner?, found]
    | some taken =>
      have present : added.key ∈ nodes.map key := by
        rw [← key_of_findKey? found]
        exact List.mem_map_of_mem (mem_of_findKey? found)
      rw [insert_of_taken present]
      by_cases same : taken.link = some (.aliasOf term.text)
      · simp [owner?, found, same, (target?_eq_some_iff _ _).mpr same]
      · have other : ¬taken.target? = some term.text := fun own =>
          same ((target?_eq_some_iff _ _).mp own)
        simp only [owner?, found, same, if_false, Option.map_some, Option.some_or,
          Option.some.injEq, beq_iff_eq, other]
        exact Prod.ext rfl (AliasCount.add_empty count).symm

theorem granted_cons (nodes : List Node) (first : Node) (rest : List Node) :
    granted nodes (first :: rest) = granted nodes [first] + granted nodes rest := by
  simp only [granted, List.countP_cons, List.countP_nil]
  omega

theorem granted_append (nodes added others : List Node) :
    granted nodes (added ++ others) = granted nodes added + granted nodes others :=
  List.countP_append

/-- Only what the keys of the added nodes mean matters. -/
theorem granted_congr {nodes others added : List Node}
    (same : ∀ node ∈ added, owner? nodes node.key = owner? others node.key) :
    granted nodes added = granted others added :=
  List.countP_congr fun node member => by rw [same node member]

/-- What was granted stays so when more nodes are added. -/
theorem granted_foldl_insert {nodes added : List Node} (later : List Node)
    (present : ∀ node ∈ added, node.key ∈ nodes.map key) :
    granted (later.foldl insert nodes) added = granted nodes added := by
  refine granted_congr fun node member => ?_
  rw [owner?_foldl_insert]
  cases owned : owner? nodes node.key with
  | none =>
    rw [owner?, Option.map_eq_none_iff, findKey?_eq_none_iff] at owned
    exact absurd (present node member) owned
  | some meaning => rfl

theorem foldl_addSpelling {term : Label} {nodes : List Node} (count : AliasCount)
    (spellings : List String) (real : owner? nodes term.key = some none) :
    spellings.foldl (addSpelling term) (nodes, count) =
      ((spellings.map (aliasNode · term.text)).foldl insert nodes,
        count + ⟨0, granted ((spellings.map (aliasNode · term.text)).foldl insert nodes)
          (spellings.map (aliasNode · term.text))⟩) := by
  induction spellings generalizing nodes count with
  | nil => exact Prod.ext rfl (AliasCount.add_empty count).symm
  | cons first rest ih =>
    -- The invariant: the term is found under its key, so no spelling can take that.
    have still : owner? (insert nodes (aliasNode first term.text)) term.key = some none := by
      have kept := owner?_foldl_insert nodes [aliasNode first term.text] term.key
      rw [real] at kept
      exact kept
    -- What the first spelling was granted can be told from the final siblings as well.
    have stable : granted ((rest.map (aliasNode · term.text)).foldl insert
        (insert nodes (aliasNode first term.text))) [aliasNode first term.text] =
        granted (insert nodes (aliasNode first term.text)) [aliasNode first term.text] := by
      refine granted_foldl_insert _ fun node member => ?_
      rw [List.mem_singleton.mp member]
      exact key_mem_foldl_insert nodes [aliasNode first term.text] List.mem_cons_self
    rw [List.foldl_cons, addSpelling_eq count first real, ih _ still, List.map_cons,
      List.foldl_cons, granted_cons _ (aliasNode first term.text) (rest.map _), stable,
      AliasCount.add_assoc]
    exact Prod.ext rfl (congrArg (count + ·) (AliasCount.eq_of_fields rfl rfl))

theorem addSpellings_eq {term : Spelled} {nodes : List Node} (count : AliasCount)
    (real : owner? nodes term.label.key = some none) :
    addSpellings (nodes, count) term =
      (term.nodes.foldl insert (nodes.map (markKeys [term.label.key])),
        count + ⟨1, granted (term.nodes.foldl insert (nodes.map (markKeys [term.label.key])))
          term.nodes⟩) := by
  have marking : (fun node : Node => if node.key = term.label.key then
      { node with link := some .canonical } else node) = markKeys [term.label.key] := by
    funext node
    simp [markKeys]
  have still : owner? (nodes.map (markKeys [term.label.key])) term.label.key = some none := by
    rw [owner?_markKeys _ (by simpa using real), real]
  unfold addSpellings
  rw [marking]
  change term.others.foldl (addSpelling term.label) (_, count + ⟨1, 0⟩) = _
  rw [foldl_addSpelling _ _ still]
  refine Prod.ext rfl ?_
  rw [AliasCount.add_assoc]
  exact congrArg (count + ·) (AliasCount.eq_of_fields rfl (Nat.zero_add _))

/-- What comes out of siblings when these terms among them get their other spellings. -/
def spelledOut (terms : List Spelled) (nodes : List Node) : List Node :=
  (terms.flatMap Spelled.nodes).foldl insert (nodes.map (markKeys (terms.map (·.label.key))))

/-- The marks of later terms can be set before the spellings of earlier ones are added. -/
private theorem spelledOut_cons (first : Spelled) (rest : List Spelled) (nodes : List Node)
    (present : ∀ term ∈ rest, term.label.key ∈ nodes.map key) :
    spelledOut rest (spelledOut [first] nodes) = spelledOut (first :: rest) nodes := by
  have spares : ∀ node ∈ first.nodes, node.key ∉ (nodes.map (markKeys [first.label.key])).map key →
      markKeys (rest.map (·.label.key)) node = node := by
    intro node _ free
    have unmarked : node.key ∉ rest.map (·.label.key) := by
      intro chosen
      obtain ⟨term, member, same⟩ := List.mem_map.mp chosen
      rw [map_key_map _ (markKeys_key _)] at free
      exact free (same ▸ present term member)
    simp only [markKeys, unmarked, if_false]
  simp only [spelledOut, List.flatMap_cons, List.flatMap_nil, List.append_nil, List.map_cons,
    List.map_nil, List.foldl_append]
  rw [map_foldl_insert _ (markKeys_key _) _ _ spares, List.map_map]
  congr 3
  funext node
  exact markKeys_cons first.label.key _ node

theorem foldl_addSpellings {terms : List Spelled} {nodes : List Node} (count : AliasCount)
    (real : ∀ term ∈ terms, owner? nodes term.label.key = some none) :
    terms.foldl addSpellings (nodes, count) =
      (spelledOut terms nodes, count +
        ⟨terms.length, granted (spelledOut terms nodes) (terms.flatMap Spelled.nodes)⟩) := by
  induction terms generalizing nodes count with
  | nil =>
    have same : spelledOut [] nodes = nodes := by
      have unmarked : markKeys [] = id := by funext node; simp [markKeys]
      simp [spelledOut, unmarked]
    rw [same]
    exact Prod.ext rfl (AliasCount.add_empty count).symm
  | cons first rest ih =>
    have own : owner? nodes first.label.key = some none := real first List.mem_cons_self
    have step := addSpellings_eq count own
    have single : spelledOut [first] nodes =
        first.nodes.foldl insert (nodes.map (markKeys [first.label.key])) := by
      simp [spelledOut]
    rw [← single] at step
    have still : ∀ term ∈ rest, owner? (spelledOut [first] nodes) term.label.key = some none := by
      intro term member
      rw [single, owner?_foldl_insert, owner?_markKeys _ (by simpa using own),
        real term (List.mem_cons_of_mem first member), Option.some_or]
    have whole := spelledOut_cons first rest nodes fun term member =>
      mem_keys_of_owner? (real term (List.mem_cons_of_mem first member))
    -- Neither the later marks nor the later nodes change what the first term was granted.
    have stable : granted (spelledOut (first :: rest) nodes) first.nodes =
        granted (spelledOut [first] nodes) first.nodes := by
      rw [← whole, spelledOut, granted_foldl_insert]
      · exact granted_congr fun node _ => owner?_markKeys _ (by simpa using still)
      · intro node member
        rw [map_key_map _ (markKeys_key _), single]
        exact key_mem_foldl_insert _ _ member
    rw [List.foldl_cons, step, ih _ still, whole, AliasCount.add_assoc, List.flatMap_cons,
      granted_append, stable]
    refine Prod.ext rfl (congrArg (count + ·) (AliasCount.eq_of_fields ?_ rfl))
    simp [Nat.add_comm]

theorem label_of_spelled? {node : Node} {term : Spelled} (spelled : node.spelled? = some term) :
    term.label = node.label := (isAlias_of_spelled? spelled).2

/-- Among siblings with distinct keys the marked nodes are those with other spellings. -/
theorem map_markKeys_eq {siblings : List Node} (distinct : DistinctKeys siblings) :
    siblings.map (markKeys ((siblings.filterMap spelled?).map (·.label.key))) =
      siblings.map marked := by
  refine List.map_congr_left fun node member => ?_
  have chosen : node.key ∈ (siblings.filterMap spelled?).map (·.label.key) ↔
      node.spelled?.isSome = true := by
    constructor
    · -- A key in the list can only come from the node itself, as siblings have distinct keys.
      intro inside
      obtain ⟨term, listed, same⟩ := List.mem_map.mp inside
      obtain ⟨other, among, spelled⟩ := List.mem_filterMap.mp listed
      have equal : other = node :=
        eq_of_key_eq distinct among member (by rw [← same, label_of_spelled? spelled]; rfl)
      rw [← equal, spelled]
      rfl
    · intro spelled
      obtain ⟨term, found⟩ := Option.isSome_iff_exists.mp spelled
      exact List.mem_map.mpr ⟨term, List.mem_filterMap.mpr ⟨node, member, found⟩,
        by rw [label_of_spelled? found]; rfl⟩
  simp only [markKeys, marked, chosen]

/-- The closed form of the pass over the children of one node. -/
theorem addAliases_eq {siblings : List Node} (distinct : DistinctKeys siblings) :
    addAliases siblings =
      ((declared siblings).foldl insert (siblings.map marked),
        ⟨(siblings.filterMap spelled?).length,
          granted ((declared siblings).foldl insert (siblings.map marked))
            (declared siblings)⟩) := by
  have real : ∀ term ∈ siblings.filterMap spelled?,
      owner? siblings term.label.key = some none := by
    intro term listed
    obtain ⟨node, member, spelled⟩ := List.mem_filterMap.mp listed
    obtain ⟨own, label⟩ := isAlias_of_spelled? spelled
    have found : findKey? siblings term.label.key = some node := by
      rw [label]
      exact findKey?_of_mem distinct member
    rw [owner?, found, Option.map_some, target?_of_not_isAlias own]
  unfold addAliases
  rw [foldl_addSpellings _ real, spelledOut, map_markKeys_eq distinct, AliasCount.empty_add]
  rfl

/-- The children of a node after the pass, given what they were when it came to them. -/
def withSpellings (siblings : List Node) : List Node :=
  (declared siblings).foldl insert (siblings.map marked)

theorem withSpellings_distinct {siblings : List Node} (distinct : DistinctKeys siblings) :
    DistinctKeys (withSpellings siblings) :=
  foldl_insert_distinct (distinct.map marked marked_key) _

/-- A node that siblings ask for is a spelling of one of them. -/
theorem exists_of_mem_declared {siblings : List Node} {added : Node}
    (member : added ∈ declared siblings) :
    ∃ node ∈ siblings, node.spelled?.isSome ∧ node.isAlias = false ∧
      ∃ spelling, added = aliasNode spelling node.name := by
  obtain ⟨term, listed, among⟩ := List.mem_flatMap.mp member
  obtain ⟨node, present, spelled⟩ := List.mem_filterMap.mp listed
  obtain ⟨spelling, _, same⟩ := List.mem_map.mp among
  obtain ⟨own, label⟩ := isAlias_of_spelled? spelled
  exact ⟨node, present, by rw [spelled]; rfl, own, spelling, by rw [← same, label]; rfl⟩

theorem isAlias_of_mem_declared {siblings : List Node} {added : Node}
    (member : added ∈ declared siblings) : added.isAlias = true := by
  obtain ⟨node, _, _, _, spelling, rfl⟩ := exists_of_mem_declared member
  rfl

/-- The old children stay in front with their marks; what follows is asked for. -/
theorem withSpellings_eq_append (siblings : List Node) :
    ∃ fresh, fresh.Sublist (declared siblings) ∧
      withSpellings siblings = siblings.map marked ++ fresh :=
  foldl_insert_eq_append _ _

/-! The pass over a whole tree. -/

/-- A child after the pass over the tree below it, which leaves other spellings alone. -/
def deepened (child : Node) : Node := if child.isAlias then child else child.withAliases.1

theorem eachWithAliases_fst (nodes : List Node) :
    (eachWithAliases nodes).1 = nodes.map deepened := by
  induction nodes with
  | nil => rfl
  | cons first rest ih =>
    rw [eachWithAliases, ih, List.map_cons, deepened]
    split <;> rfl

theorem withAliases_eq (node : Node) :
    node.withAliases =
      ({ node with children := (addAliases (node.children.map deepened)).1 },
        (eachWithAliases node.children).2 + (addAliases (node.children.map deepened)).2) := by
  cases node with
  | mk label table dataTypes link children => rw [withAliases, eachWithAliases_fst]

@[simp] theorem withAliases_label (node : Node) : node.withAliases.1.label = node.label := by
  rw [withAliases_eq]

@[simp] theorem withAliases_table (node : Node) : node.withAliases.1.table = node.table := by
  rw [withAliases_eq]

@[simp] theorem withAliases_link (node : Node) : node.withAliases.1.link = node.link := by
  rw [withAliases_eq]

theorem deepened_key (child : Node) : child.deepened.key = child.key := by
  unfold deepened key
  split <;> simp

theorem deepened_link (child : Node) : child.deepened.link = child.link := by
  unfold deepened
  split <;> simp

theorem deepened_isAlias (child : Node) : child.deepened.isAlias = child.isAlias := by
  unfold isAlias
  rw [deepened_link]

theorem withAliases_children {node : Node} (distinct : DistinctKeys node.children) :
    node.withAliases.1.children = withSpellings (node.children.map deepened) := by
  rw [withAliases_eq, addAliases_eq (distinct.map deepened deepened_key)]
  rfl

end Node

end Portability
