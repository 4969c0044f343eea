import Portability.Proofs.Catalog.Idempotence
import Portability.Proofs.Catalog.Reading
import Portability.Proofs.Text.LowerCase

/-!
# Exactly the other spellings

Adding other spellings to a tree as it was read adds the spellings that its records name and changes
nothing else. The records say which terms are marked and which keys are asked for; of the terms that
ask for one key the first gets it, unless a child has it already.
-/
namespace Portability.Node

/-- Whether a record makes the node available under another spelling. Contexts are no terms. -/
def hasOthers (node : Node) : Bool :=
  !isContextName node.name && node.usualTable?.any fun table =>
    table.allRecords.any fun record => record.vendor.isSome || record.otherName.isSome

/-- Whether a record makes the node available under a spelling with this key. -/
def offers (node : Node) (key : String) : Bool :=
  !isContextName node.name && node.usualTable?.any fun table =>
    table.allRecords.any fun record =>
      (record.alias? node.name).any fun spelling => Text.lowerCase spelling == key

/-- What a node holds beside its link and its children. -/
def content (node : Node) : Label × Option TableSource × List String :=
  (node.label, node.table, node.dataTypes)

/-- What becomes of one node and its children. -/
structure GivenSpellings (before after : Node) : Prop where
  content : after.content = before.content
  distinct : DistinctKeys after.children
  /-- Behind the children stand only other spellings, and a child has at most a new mark. -/
  children : ∃ kept added, after.children = kept ++ added ∧
    kept.map Node.content = before.children.map Node.content ∧
    kept.map link =
      before.children.map (fun child => if child.hasOthers then some .canonical else none) ∧
    ∀ node ∈ added, ∃ spelling term, node = aliasNode spelling term
  /-- The first child to offer a key that is free has it as another spelling. -/
  spellings : ∀ key target,
    (∃ node ∈ after.children, node.key = key ∧ node.link = some (.aliasOf target)) ↔
      key ∉ before.children.map Node.key ∧
        (before.children.find? (·.offers key)).map name = some target

/-- Two trees of which the second has the children of the first in front, node by node. -/
inductive Alongside (holds : Node → Node → Prop) : Node → Node → Prop
  | intro {before after : Node} : holds before after →
      (∀ pair ∈ before.children.zip after.children, Alongside holds pair.1 pair.2) →
      Alongside holds before after

/-! The spellings of a term, by their keys. -/

/-- A spelling that is left out differs from one that is kept only in case. -/
theorem mem_keys_foldl_spellings (found more : List String) (key : String) :
    key ∈ (more.foldl (fun found spelling =>
      if found.any (Text.sameIgnoringCase · spelling) then found else found ++ [spelling])
      found).map Text.lowerCase ↔
      key ∈ found.map Text.lowerCase ∨ key ∈ more.map Text.lowerCase := by
  induction more generalizing found with
  | nil => simp
  | cons spelling rest ih =>
    rw [List.foldl_cons, ih, List.map_cons, List.mem_cons]
    split
    -- A repeated spelling is left out, but its key is there through the one that it repeats.
    next repeated =>
      obtain ⟨held, member, same⟩ := List.any_eq_true.mp repeated
      have inside : Text.lowerCase spelling ∈ found.map Text.lowerCase := by
        rw [← Text.lowerCase_eq_of_sameIgnoringCase same]
        exact List.mem_map_of_mem member
      constructor
      · rintro (old | new)
        · exact .inl old
        · exact .inr (.inr new)
      · rintro (old | rfl | new)
        · exact .inl old
        · exact .inl inside
        · exact .inr new
    · simp [or_assoc]

theorem mem_keys_spellings (table : SupportTable) (term key : String) :
    key ∈ (spellings table term).map Text.lowerCase ↔
      ∃ record ∈ table.allRecords, ∃ spelling, record.alias? term = some spelling ∧
        Text.lowerCase spelling = key := by
  unfold spellings
  rw [mem_keys_foldl_spellings]
  simp only [List.map_nil, List.not_mem_nil, false_or, List.mem_map, List.mem_filterMap]
  constructor
  · rintro ⟨spelling, ⟨record, member, named⟩, same⟩
    exact ⟨record, member, spelling, named, same⟩
  · rintro ⟨record, member, spelling, named, same⟩
    exact ⟨spelling, ⟨record, member, named⟩, same⟩

theorem isSome_alias?_iff (record : SupportRecord) (term : String) :
    (record.alias? term).isSome = (record.vendor.isSome || record.otherName.isSome) := by
  unfold SupportRecord.alias?
  cases record.otherName <;> simp

theorem spellings_ne_nil_iff (table : SupportTable) (term : String) :
    spellings table term ≠ [] ↔ ∃ record ∈ table.allRecords, (record.alias? term).isSome = true := by
  constructor
  · intro inhabited
    obtain ⟨spelling, member⟩ := List.exists_mem_of_ne_nil _ inhabited
    obtain ⟨record, among, named, offered, _⟩ :=
      (mem_keys_spellings table term _).mp (List.mem_map_of_mem member)
    exact ⟨record, among, by rw [offered]; rfl⟩
  · rintro ⟨record, among, offered⟩ empty
    obtain ⟨spelling, named⟩ := Option.isSome_iff_exists.mp offered
    have member := (mem_keys_spellings table term _).mpr ⟨record, among, spelling, named, rfl⟩
    rw [empty] at member
    cases member

/-- What a term of its own asks for, by what its table says. -/
theorem spelled?_eq {node : Node} (own : node.isAlias = false) :
    node.spelled? =
      if node.hasOthers then
        node.usualTable?.map fun table => ⟨node.label, spellings table node.name⟩
      else none := by
  unfold spelled? hasOthers
  rw [own, Bool.false_or]
  cases isContextName node.name with
  | true => rfl
  | false =>
    cases node.usualTable? with
    | none => rfl
    | some table =>
      have inhabited := spellings_ne_nil_iff table node.name
      simp only [isSome_alias?_iff, ← List.any_eq_true] at inhabited
      simp only [Option.any_some, Bool.not_false, Bool.true_and, ← inhabited, Option.map_some]
      cases spellings table node.name <;> simp

theorem marked_eq {node : Node} (own : node.isAlias = false) :
    node.marked = { node with link := if node.hasOthers then some .canonical else node.link } := by
  unfold marked
  rw [spelled?_eq own]
  cases others : node.hasOthers with
  | true =>
    have tabled : node.usualTable?.isSome = true := by
      cases held : node.usualTable? <;> simp_all [hasOthers]
    simp [tabled]
  | false =>
    cases node
    simp

theorem offers_eq {node : Node} (own : node.isAlias = false) (key : String) :
    node.offers key = node.spelled?.any fun term => key ∈ term.others.map Text.lowerCase := by
  have named (table : SupportTable) : (table.allRecords.any fun record =>
      (record.alias? node.name).any fun spelling => Text.lowerCase spelling == key) =
      decide (key ∈ (spellings table node.name).map Text.lowerCase) := by
    apply Bool.eq_iff_iff.mpr
    rw [decide_eq_true_iff, mem_keys_spellings]
    simp [List.any_eq_true, Option.any_eq_true]
  unfold offers spelled?
  simp only [own, Bool.false_or, named]
  cases isContextName node.name with
  | true => rfl
  | false =>
    cases node.usualTable? with
    | none => rfl
    | some table => cases shape : spellings table node.name <;> simp [shape]

/-- One term asks for its spellings under their keys. -/
theorem owner?_nodes (term : Spelled) (key : String) :
    owner? term.nodes key =
      if key ∈ term.others.map Text.lowerCase then some (some term.label.text) else none := by
  unfold owner? Spelled.nodes
  induction term.others with
  | nil => rfl
  | cons spelling rest ih =>
    have own : (aliasNode spelling term.label.text).key = Text.lowerCase spelling := rfl
    have target : (aliasNode spelling term.label.text).target? = some term.label.text := rfl
    rw [List.map_cons, findKey?_cons, Option.map_or, ih, List.map_cons]
    by_cases same : Text.lowerCase spelling = key
    · simp [findKey?, own, target, same]
    · simp [findKey?, own, same, Ne.symm same]

/-- Of the siblings that ask for a key the first is the one that it is a spelling of. -/
theorem owner?_declared {siblings : List Node} (own : ∀ node ∈ siblings, node.isAlias = false)
    (key : String) :
    owner? (declared siblings) key =
      ((siblings.find? (·.offers key)).map name).map some := by
  induction siblings with
  | nil => rfl
  | cons first rest ih =>
    have later := ih fun node member => own node (List.mem_cons_of_mem first member)
    have offered := offers_eq (own first List.mem_cons_self) key
    unfold declared at later ⊢
    cases spelled : first.spelled? with
    -- A sibling without spellings declares nothing, and offers nothing.
    | none =>
      rw [spelled] at offered
      rw [List.filterMap_cons_none spelled, later, List.find?_cons_of_neg]
      simp [offered]
    | some term =>
      have label := (isAlias_of_spelled? spelled).2
      rw [spelled, Option.any_some] at offered
      rw [List.filterMap_cons_some spelled, List.flatMap_cons, owner?, findKey?_append,
        Option.map_or, ← owner?, ← owner?, owner?_nodes, later, label]
      by_cases inside : key ∈ term.others.map Text.lowerCase
      · rw [List.find?_cons_of_pos (by simp [offered, inside]), if_pos inside]
        rfl
      · rw [List.find?_cons_of_neg (by simp [offered, inside]), if_neg inside]
        rfl

/-- Where no sibling is another spelling, a key means a term or nothing. -/
theorem owner?_of_own {nodes : List Node} (own : ∀ node ∈ nodes, node.isAlias = false)
    (key : String) : owner? nodes key = if key ∈ nodes.map Node.key then some none else none := by
  unfold owner?
  cases found : findKey? nodes key with
  | none =>
    rw [if_neg ((findKey?_eq_none_iff nodes key).mp found)]
    rfl
  | some node =>
    have member := mem_of_findKey? found
    rw [if_pos (key_of_findKey? found ▸ List.mem_map_of_mem member), Option.map_some,
      target?_of_not_isAlias (own node member)]

theorem owner?_eq_some_some_iff {nodes : List Node} (distinct : DistinctKeys nodes)
    {key target : String} :
    owner? nodes key = some (some target) ↔
      ∃ node ∈ nodes, node.key = key ∧ node.link = some (.aliasOf target) := by
  unfold owner?
  rw [Option.map_eq_some_iff]
  constructor
  · rintro ⟨node, found, linked⟩
    exact ⟨node, mem_of_findKey? found, key_of_findKey? found,
      (target?_eq_some_iff node target).mp linked⟩
  · rintro ⟨node, member, rfl, linked⟩
    exact ⟨node, findKey?_of_mem distinct member, (target?_eq_some_iff node target).mpr linked⟩

/-- The keys of siblings with other spellings: first come the siblings, then what they ask for. -/
theorem owner?_withSpellings {siblings : List Node}
    (own : ∀ node ∈ siblings, node.isAlias = false) (key : String) :
    owner? (withSpellings siblings) key =
      if key ∈ siblings.map Node.key then some none
      else ((siblings.find? (·.offers key)).map name).map some := by
  have still : ∀ node ∈ siblings.map marked, node.isAlias = false := by
    intro node member
    obtain ⟨original, present, rfl⟩ := List.mem_map.mp member
    rw [marked_isAlias, own original present]
  rw [withSpellings, owner?_foldl_insert, owner?_of_own still, map_key_map marked marked_key,
    owner?_declared own]
  split <;> rfl

/-! One node, then the whole tree. -/

@[simp] theorem withAliases_dataTypes (node : Node) :
    node.withAliases.1.dataTypes = node.dataTypes := by
  rw [withAliases_eq]

theorem content_withAliases (node : Node) : node.withAliases.1.content = node.content := by
  simp [content]

theorem content_deepened (child : Node) : child.deepened.content = child.content := by
  unfold deepened
  split
  · rfl
  · exact content_withAliases child

theorem content_marked (node : Node) : node.marked.content = node.content := by
  unfold marked
  split <;> rfl

/-- What a node offers hangs on its name and its table. -/
theorem offers_deepened (child : Node) : child.deepened.offers = child.offers := by
  have same := content_deepened child
  simp only [content, Prod.mk.injEq] at same
  unfold offers name usualTable?
  rw [same.1, same.2.1]

theorem hasOthers_deepened (child : Node) : child.deepened.hasOthers = child.hasOthers := by
  have same := content_deepened child
  simp only [content, Prod.mk.injEq] at same
  unfold hasOthers name usualTable?
  rw [same.1, same.2.1]

theorem name_deepened (child : Node) : child.deepened.name = child.name :=
  congrArg (fun content => content.1.text) (content_deepened child)

/-- The pass at one node whose children are as they were read. -/
theorem withAliases_givenSpellings {node : Node} (distinct : DistinctKeys node.children)
    (unlinked : ∀ child ∈ node.children, child.link = none) :
    GivenSpellings node node.withAliases.1 where
  content := content_withAliases node
  distinct := by
    rw [withAliases_children distinct]
    exact withSpellings_distinct (distinct.map deepened deepened_key)
  children := by
    obtain ⟨fresh, among, result⟩ := withSpellings_eq_append (node.children.map deepened)
    refine ⟨(node.children.map deepened).map marked, fresh, ?_, ?_, ?_, fun added member => ?_⟩
    · rw [withAliases_children distinct, result]
    -- Deepening changes a child below itself, and marking changes its link: its content stays.
    · rw [List.map_map, List.map_map]
      refine List.map_congr_left fun child _ => ?_
      rw [Function.comp_apply, Function.comp_apply, content_marked, content_deepened]
    · rw [List.map_map, List.map_map]
      refine List.map_congr_left fun child member => ?_
      have real : child.deepened.isAlias = false := by
        rw [deepened_isAlias, isAlias, unlinked child member]
      rw [Function.comp_apply, Function.comp_apply, marked_eq real, hasOthers_deepened,
        deepened_link, unlinked child member]
    · obtain ⟨_, _, _, _, spelling, same⟩ := exists_of_mem_declared (among.subset member)
      exact ⟨spelling, _, same⟩
  spellings := by
    intro key target
    -- The pass below a child comes first, so its siblings are compared after it.
    have own : ∀ child ∈ node.children.map deepened, child.isAlias = false := by
      intro child member
      obtain ⟨original, present, rfl⟩ := List.mem_map.mp member
      rw [deepened_isAlias, isAlias, unlinked original present]
    have offered : (fun child : Node => child.offers key) ∘ deepened = (·.offers key) := by
      funext child
      rw [Function.comp_apply, offers_deepened]
    have named : name ∘ deepened = name := funext name_deepened
    rw [withAliases_children distinct,
      ← owner?_eq_some_some_iff (withSpellings_distinct (distinct.map deepened deepened_key)),
      owner?_withSpellings own, map_key_map deepened deepened_key, List.find?_map, offered,
      Option.map_map name deepened, named]
    split
    next taken => simp [taken]
    next free => simp [free]

theorem GivenSpellings.relinked {before after : Node} (given : GivenSpellings before after)
    (link : Option AliasLink) : GivenSpellings before { after with link } :=
  ⟨given.content, given.distinct, given.children, given.spellings⟩

theorem Alongside.marked {before after : Node} (along : Alongside GivenSpellings before after) :
    Alongside GivenSpellings before after.marked := by
  unfold Node.marked
  split
  · -- A mark is the business of the parent, which says of which children it has to be set.
    cases along with
    | intro here below => exact .intro (here.relinked _) below
  · exact along

theorem mem_zip_map_append {α β : Type} {change : α → β} {items : List α} {more : List β}
    {pair : α × β} (member : pair ∈ items.zip (items.map change ++ more)) :
    pair.1 ∈ items ∧ pair.2 = change pair.1 := by
  induction items with
  | nil => cases member
  | cons first rest ih =>
    rw [List.map_cons, List.cons_append, List.zip_cons_cons] at member
    rcases List.mem_cons.mp member with rfl | later
    · exact ⟨List.mem_cons_self, rfl⟩
    · exact ⟨List.mem_cons_of_mem first (ih later).1, (ih later).2⟩

theorem withAliases_alongside {node : Node} (plain : node.Everywhere Plain) :
    Alongside GivenSpellings node node.withAliases.1 := by
  induction node using induct with
  | step node ih =>
    have distinct := plain.here.distinct
    have unlinked : ∀ child ∈ node.children, child.link = none := fun child member =>
      (plain.child member).here.unlinked
    refine .intro (withAliases_givenSpellings distinct unlinked) fun pair member => ?_
    obtain ⟨fresh, _, result⟩ := withSpellings_eq_append (node.children.map deepened)
    -- The zip stops where the children that were read stop, before the spellings that were added.
    rw [withAliases_children distinct, result, List.map_map] at member
    obtain ⟨inside, same⟩ := mem_zip_map_append member
    have deep : pair.1.deepened = pair.1.withAliases.1 := by
      unfold deepened
      rw [if_neg]
      simp [(plain.child inside).here.isAlias]
    rw [same, Function.comp_apply, deep]
    exact (ih pair.1 inside (plain.child inside)).marked

/--
In a tree as it was read every node keeps its children in their order and all that they hold. Behind
them comes an other spelling for each key that a child offers and none has, which leads to the first
child that offers it, and the children with records under other spellings are marked.
-/
theorem withAliases_exact {name path : String} {json : Json} {node : Node}
    (read : ofJson name path json = .ok node) :
    Alongside GivenSpellings node node.withAliases.1 :=
  withAliases_alongside (ofJson_plain name path json node read)

/--
Two terms offer `-x-b`, and one of these its own name in capitals; a term without a table is called
as another is spelled, a context has a prefix, and there is a spelled term below one of the terms.
-/
def rivals : Json :=
  let term (records : List Json) (inner : List (String × Json)) : Json :=
    .object (("__compat", .object [("support", .object [("firefox", .list records)])]) :: inner)
  let behind (vendor : String) : Json := .object [("prefix", .text vendor)]
  let called (name : String) : Json := .object [("alternative_name", .text name)]
  .object [
    ("a", term [behind "-x-", called "-X-b"] [("inner", term [behind "-y-"] [])]),
    ("grid_context", term [behind "-x-"] []),
    ("-X-A", .object []),
    ("b", term [behind "-x-", called "B", behind "-y-"] [])]

theorem isSome_rivals : (ofJson "properties" "css.properties" rivals).toOption.isSome = true := by
  decide

def rivalsNode : Node := (ofJson "properties" "css.properties" rivals).toOption.get isSome_rivals

theorem withAliases_exact_rivals :
    ofJson "properties" "css.properties" rivals = .ok rivalsNode ∧
    Alongside GivenSpellings rivalsNode rivalsNode.withAliases.1 := by
  have read : ofJson "properties" "css.properties" rivals = .ok rivalsNode := rfl
  exact ⟨read, withAliases_exact read⟩

/-- The first of the two terms gets the spelling, and the term without a table keeps its name. -/
example :
    rivalsNode.withAliases.1.children.map (fun child => (child.name, child.link)) =
      [("a", some .canonical), ("-X-A", none), ("b", some .canonical), ("grid_context", none),
        ("-X-b", some (.aliasOf "a")), ("-y-b", some (.aliasOf "b"))] := by
  decide

end Portability.Node
