import Portability.Proofs.Catalog.AliasPass

/-!
# Adding other spellings twice

A second pass meets other nodes than the first: terms carry their marks, and every spelling that the
first pass added is taken now. It asks for the same nodes all the same, since marks and spellings
have no spellings of their own, finds all their keys taken, and grants what the first pass granted.
-/
namespace Portability.Node

/-- No node in the tree has two children with the same key, as children are found by key. -/
def WellKeyed (node : Node) : Prop := node.Everywhere fun inner => DistinctKeys inner.children

instance (node : Node) : Decidable node.WellKeyed := inferInstanceAs (Decidable (Everywhere _ node))

/-! Among the children of one node. -/

theorem spelled?_of_isAlias {node : Node} (linked : node.isAlias = true) :
    node.spelled? = none := by
  simp [spelled?, linked]

/-- Marking a term hides nothing of what makes it one. -/
theorem spelled?_marked (node : Node) : node.marked.spelled? = node.spelled? := by
  unfold marked
  split
  next spelled =>
    obtain ⟨term, found⟩ := Option.isSome_iff_exists.mp spelled
    have own := (isAlias_of_spelled? found).1
    have still : ({ node with link := some .canonical } : Node).isAlias = false := rfl
    unfold spelled?
    rw [own, still]
    rfl
  · rfl

theorem marked_marked (node : Node) : node.marked.marked = node.marked := by
  rw [marked, spelled?_marked]
  unfold marked
  split <;> rfl

theorem marked_of_isAlias {node : Node} (linked : node.isAlias = true) : node.marked = node := by
  simp [marked, spelled?_of_isAlias linked]

theorem marked_isAlias (node : Node) : node.marked.isAlias = node.isAlias := by
  unfold marked
  split
  next spelled =>
    obtain ⟨term, found⟩ := Option.isSome_iff_exists.mp spelled
    exact (isAlias_of_spelled? found).1.symm
  · rfl

theorem filterMap_spelled?_withSpellings (siblings : List Node) :
    (withSpellings siblings).filterMap spelled? = siblings.filterMap spelled? := by
  obtain ⟨fresh, among, result⟩ := withSpellings_eq_append siblings
  -- The new nodes are spellings themselves, and those have none.
  have silent : fresh.filterMap spelled? = [] := by
    rw [List.filterMap_eq_nil_iff]
    exact fun node member => spelled?_of_isAlias (isAlias_of_mem_declared (among.subset member))
  have same : spelled? ∘ marked = spelled? := funext spelled?_marked
  rw [result, List.filterMap_append, silent, List.append_nil, List.filterMap_map, same]

theorem declared_withSpellings (siblings : List Node) :
    declared (withSpellings siblings) = declared siblings := by
  rw [declared, filterMap_spelled?_withSpellings, declared]

theorem map_marked_withSpellings (siblings : List Node) :
    (withSpellings siblings).map marked = withSpellings siblings := by
  obtain ⟨fresh, among, result⟩ := withSpellings_eq_append siblings
  have spared : fresh.map marked = fresh := by
    rw [List.map_congr_left (g := id), List.map_id]
    exact fun node member => marked_of_isAlias (isAlias_of_mem_declared (among.subset member))
  have same : marked ∘ marked = marked := funext marked_marked
  rw [result, List.map_append, List.map_map, spared, same]

theorem withSpellings_withSpellings (siblings : List Node) :
    withSpellings (withSpellings siblings) = withSpellings siblings := by
  rw [withSpellings, declared_withSpellings, map_marked_withSpellings]
  refine foldl_insert_of_taken _ _ fun node member => ?_
  exact key_mem_foldl_insert _ _ member

theorem addAliases_withSpellings {siblings : List Node} (distinct : DistinctKeys siblings) :
    addAliases (withSpellings siblings) = addAliases siblings := by
  rw [addAliases_eq (withSpellings_distinct distinct), addAliases_eq distinct]
  change (withSpellings (withSpellings siblings),
    (⟨_, granted (withSpellings (withSpellings siblings)) _⟩ : AliasCount)) = _
  rw [withSpellings_withSpellings, declared_withSpellings, filterMap_spelled?_withSpellings]
  rfl

/-! In a whole tree. -/

/-- The link of a node plays no part in the pass below it. -/
theorem withAliases_relinked (node : Node) (link : Option AliasLink) :
    ({ node with link } : Node).withAliases =
      ({ node.withAliases.1 with link }, node.withAliases.2) := by
  rw [withAliases_eq, withAliases_eq node]

theorem marked_withAliases (node : Node) :
    node.marked.withAliases = (node.withAliases.1.marked, node.withAliases.2) := by
  have same : node.withAliases.1.spelled?.isSome = node.spelled?.isSome := by
    unfold spelled? isAlias name usualTable?
    rw [withAliases_link, withAliases_label, withAliases_table]
  unfold marked
  rw [same]
  split
  · exact withAliases_relinked node _
  · rfl

theorem eachWithAliases_append (nodes others : List Node) :
    eachWithAliases (nodes ++ others) =
      ((eachWithAliases nodes).1 ++ (eachWithAliases others).1,
        (eachWithAliases nodes).2 + (eachWithAliases others).2) := by
  induction nodes with
  | nil => exact Prod.ext rfl (AliasCount.empty_add _).symm
  | cons first rest ih =>
    rw [List.cons_append, eachWithAliases, ih, eachWithAliases]
    exact Prod.ext rfl (AliasCount.add_assoc _ _ _).symm

theorem eachWithAliases_of_isAlias {nodes : List Node}
    (aliases : ∀ node ∈ nodes, node.isAlias = true) : eachWithAliases nodes = (nodes, {}) := by
  induction nodes with
  | nil => rfl
  | cons first rest ih =>
    rw [eachWithAliases, ih fun node member => aliases node (List.mem_cons_of_mem first member),
      if_pos (aliases first List.mem_cons_self)]
    exact Prod.ext rfl (AliasCount.empty_add _)

/-- Where a second pass over each child changes nothing, neither does it over them side by side. -/
theorem eachWithAliases_deepened {children : List Node}
    (again : ∀ child ∈ children, child.withAliases.1.withAliases = child.withAliases) :
    eachWithAliases ((children.map deepened).map marked) =
      ((children.map deepened).map marked, (eachWithAliases children).2) := by
  induction children with
  | nil => rfl
  | cons first rest ih =>
    have others := ih fun child member => again child (List.mem_cons_of_mem first member)
    rw [List.map_cons, List.map_cons, eachWithAliases, others, eachWithAliases, marked_isAlias,
      deepened_isAlias]
    cases linked : first.isAlias with
    | true =>
      have spared : first.deepened.marked = first := by
        rw [deepened, if_pos linked, marked_of_isAlias linked]
      simp [spared]
    | false =>
      have deep : first.deepened = first.withAliases.1 := by simp [deepened, linked]
      have settled := again first List.mem_cons_self
      rw [deep, marked_withAliases, settled]
      simp

/--
A second pass over a tree changes nothing, neither the nodes, their order and their links nor the
counts, whatever marks and spellings the tree had to begin with.
-/
theorem withAliases_idempotent (node : Node) (keyed : node.WellKeyed) :
    node.withAliases.1.withAliases = node.withAliases := by
  induction node using induct with
  | step node ih =>
    have distinct : DistinctKeys node.children := keyed.here
    have deep := distinct.map deepened deepened_key
    obtain ⟨fresh, among, result⟩ := withSpellings_eq_append (node.children.map deepened)
    have aliases : ∀ added ∈ fresh, added.isAlias = true := fun added member =>
      isAlias_of_mem_declared (among.subset member)
    -- The second pass leaves the new nodes alone and meets the old ones as the first left them.
    have below : eachWithAliases (withSpellings (node.children.map deepened)) =
        (withSpellings (node.children.map deepened), (eachWithAliases node.children).2) := by
      rw [result, eachWithAliases_append, eachWithAliases_of_isAlias aliases,
        eachWithAliases_deepened fun child member => ih child member (keyed.child member),
        AliasCount.add_empty]
    have settled : (withSpellings (node.children.map deepened)).map deepened =
        withSpellings (node.children.map deepened) := by
      rw [← eachWithAliases_fst, below]
    rw [withAliases_eq node.withAliases.1, withAliases_children distinct, settled, below,
      addAliases_withSpellings deep, withAliases_eq node]

/--
Two terms claim `-x-b`; one of them also claims its own name and `-y-b`, which is there before the
first pass; and `-x-a` is taken by a term in capitals.
-/
def contested : Node :=
  let records (spellings : List SupportRecord) : Option TableSource :=
    some (.direct { support := [("firefox", spellings)] })
  ⟨Label.of "properties", none, [], none, [
    ⟨Label.of "a", records [{ vendor := some "-x-" }, { otherName := some "-x-b" }], [], none,
      [⟨Label.of "inner", records [{ vendor := some "-y-" }], [], none, []⟩]⟩,
    ⟨Label.of "b", records [{ vendor := some "-x-" }, { otherName := some "B" },
      { vendor := some "-y-" }], [], none, []⟩,
    ⟨Label.of "-X-A", none, [], none, []⟩,
    aliasNode "-y-b" "b"]⟩

theorem withAliases_idempotent_contested :
    contested.WellKeyed ∧ contested.withAliases.1.withAliases = contested.withAliases :=
  ⟨by decide, withAliases_idempotent contested (by decide)⟩

end Portability.Node
