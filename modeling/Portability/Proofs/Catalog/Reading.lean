import Portability.Catalog.Basic
import Portability.Proofs.Catalog.Tree

/-!
# Trees as they are read

A snapshot gives trees without links: siblings have distinct keys, since a child whose key is taken
is dropped, and a table that depends on contexts has at least one. Completing the data types of
properties touches none of this.
-/
namespace Portability

theorem bind_eq_ok_iff {ε α β : Type} (first : Except ε α) (next : α → Except ε β) (result : β) :
    (first >>= next) = .ok result ↔ ∃ value, first = .ok value ∧ next value = .ok result := by
  cases first <;> simp [bind, Except.bind]

theorem map_eq_ok_iff {ε α β : Type} (change : α → β) (first : Except ε α) (result : β) :
    change <$> first = .ok result ↔ ∃ value, first = .ok value ∧ change value = result := by
  cases first <;> simp [Functor.map, Except.map]

namespace Node

/-- A node as it is read, before other spellings are added. -/
structure Plain (node : Node) : Prop where
  distinct : DistinctKeys node.children
  unlinked : node.link = none
  contexts : ∀ tables, node.table = some (.byContext tables) → tables ≠ []

theorem Plain.isAlias {node : Node} (plain : node.Plain) : node.isAlias = false := by
  simp [Node.isAlias, plain.unlinked]

/-- What a field says, by its name. -/
def fieldEntry (place field : String) (value : Json) : Except Fault Entry :=
  if field = tableField then tableEntry place value
  else if field ∈ dataTypeFields then dataTypesEntry place value
  else if isReserved field then pure .nothing
  else Entry.child <$> ofJson field place value

theorem ofJson_object (name path : String) (fields : List (String × Json)) :
    ofJson name path (.object fields) = ofEntries name <$> entriesOfFields path fields := by
  rw [ofJson]
  cases entriesOfFields path fields <;> rfl

theorem entriesOfFields_cons (path field : String) (value : Json) (rest : List (String × Json)) :
    entriesOfFields path ((field, value) :: rest) =
      fieldEntry (path ++ "." ++ field) field value >>= fun entry =>
        (entry :: ·) <$> entriesOfFields path rest := by
  have onward (entry : Entry) : (do return entry :: (← entriesOfFields path rest)) =
      (entry :: ·) <$> entriesOfFields path rest := by
    cases entriesOfFields path rest <;> rfl
  rw [entriesOfFields]
  unfold fieldEntry
  by_cases table : field = tableField
  · simp only [table, if_true, onward]
  · by_cases types : field ∈ dataTypeFields
    · simp only [table, types, if_true, if_false, onward]
    · cases isReserved field <;>
        simp only [table, types, if_true, if_false, Bool.false_eq_true, onward]

/-- Only a field that is no reserved one becomes a child. -/
theorem ofJson_of_fieldEntry {place field : String} {value : Json} {node : Node}
    (read : fieldEntry place field value = .ok (.child node)) :
    ofJson field place value = .ok node := by
  unfold fieldEntry at read
  split at read
  · unfold tableEntry at read
    split at read <;> cases read
  · split at read
    · unfold dataTypesEntry at read
      split at read <;> cases read
    · split at read
      · cases read
      · obtain ⟨child, inside, same⟩ := (map_eq_ok_iff _ _ _).mp read
        cases same
        exact inside

theorem tableSource_ne_byContext_nil (own : Option SupportTable) (contexts : List Node) :
    tableSource own contexts ≠ some (.byContext []) := by
  unfold tableSource
  cases own with
  | some table => simp
  | none => cases contexts.filterMap contextTable? <;> simp

theorem ofEntries_plain (name : String) (entries : List Entry) :
    (ofEntries name entries).Plain where
  distinct := foldl_insert_distinct (show DistinctKeys [] from List.nodup_nil) _
  unlinked := rfl
  contexts := fun tables held empty => by
    subst empty
    exact tableSource_ne_byContext_nil _ _ held

theorem mem_entries_of_child {name : String} {entries : List Entry} {node : Node}
    (member : node ∈ (ofEntries name entries).children) : Entry.child node ∈ entries := by
  obtain ⟨fresh, among, result⟩ := foldl_insert_eq_append []
    ((entries.filterMap Entry.child?).filter (!isContextName ·.name) ++
      (entries.filterMap Entry.child?).filter (isContextName ·.name))
  change node ∈ List.foldl insert [] _ at member
  rw [result, List.nil_append] at member
  have inside : node ∈ entries.filterMap Entry.child? := by
    rcases List.mem_append.mp (among.subset member) with other | context
    · exact List.mem_of_mem_filter other
    · exact List.mem_of_mem_filter context
  obtain ⟨entry, listed, held⟩ := List.mem_filterMap.mp inside
  cases entry with
  | child found =>
    cases held
    exact listed
  | table | dataTypes | nothing => cases held

mutual

theorem ofJson_plain (name path : String) :
    ∀ (json : Json) (node : Node), ofJson name path json = .ok node → node.Everywhere Plain
  | .object fields, node, read => by
    rw [ofJson_object, map_eq_ok_iff] at read
    obtain ⟨entries, entered, rfl⟩ := read
    exact .intro (ofEntries_plain name entries) fun child member =>
      entriesOfFields_plain path fields entries entered child (mem_entries_of_child member)
  | .null, _, read | .boolean _, _, read | .number _, _, read | .text _, _, read
  | .list _, _, read | .unreadable, _, read => by
    rw [ofJson] at read
    · cases read
    · simp

theorem entriesOfFields_plain (path : String) :
    ∀ (fields : List (String × Json)) (entries : List Entry),
      entriesOfFields path fields = .ok entries →
        ∀ node, Entry.child node ∈ entries → node.Everywhere Plain
  | [], entries, read, node, member => by
    rw [entriesOfFields] at read
    cases read
    cases member
  | (field, value) :: rest, entries, read, node, member => by
    rw [entriesOfFields_cons, bind_eq_ok_iff] at read
    obtain ⟨entry, entered, further⟩ := read
    obtain ⟨tail, others, rfl⟩ := (map_eq_ok_iff _ _ _).mp further
    rcases List.mem_cons.mp member with own | later
    · subst own
      exact ofJson_plain field (path ++ "." ++ field) value node (ofJson_of_fieldEntry entered)
    · exact entriesOfFields_plain path rest tail others node later

end

theorem exists_fields_of_ofJson {name path : String} {json : Json} {node : Node}
    (read : ofJson name path json = .ok node) : ∃ fields, json = .object fields := by
  cases json with
  | object fields => exact ⟨fields, rfl⟩
  | null | boolean | number | text | list | unreadable =>
    rw [ofJson] at read
    · cases read
    · simp

theorem ofJson_label {name path : String} {json : Json} {node : Node}
    (read : ofJson name path json = .ok node) : node.label = Label.of name := by
  obtain ⟨fields, rfl⟩ := exists_fields_of_ofJson read
  rw [ofJson_object, map_eq_ok_iff] at read
  obtain ⟨entries, _, rfl⟩ := read
  rfl

end Node

namespace Catalog

open Node

/-- The namespaces keep their order, and none is read twice. -/
theorem readNamespaces_keys {fields : List (String × Json)} {names : List String}
    {nodes : List Node} (read : readNamespaces fields names = .ok nodes) :
    (nodes.map key).Sublist (names.map Text.lowerCase) := by
  induction names generalizing nodes with
  | nil =>
    cases read
    exact List.Sublist.slnil
  | cons name rest ih =>
    rw [readNamespaces] at read
    split at read
    next json _ =>
      obtain ⟨node, first, further⟩ := (bind_eq_ok_iff _ _ _).mp read
      obtain ⟨others, later, result⟩ := (bind_eq_ok_iff _ _ _).mp further
      cases result
      have named : node.key = Text.lowerCase name := by
        unfold key
        rw [ofJson_label first]
        rfl
      rw [List.map_cons, List.map_cons, named]
      exact (ih later).cons_cons _
    · exact (ih read).cons _

theorem readNamespaces_plain {fields : List (String × Json)} {names : List String}
    {nodes : List Node} (read : readNamespaces fields names = .ok nodes) :
    ∀ node ∈ nodes, node.Everywhere Plain := by
  induction names generalizing nodes with
  | nil =>
    cases read
    simp
  | cons name rest ih =>
    rw [readNamespaces] at read
    split at read
    next json _ =>
      obtain ⟨node, first, further⟩ := (bind_eq_ok_iff _ _ _).mp read
      obtain ⟨others, later, result⟩ := (bind_eq_ok_iff _ _ _).mp further
      cases result
      exact List.forall_mem_cons.mpr ⟨ofJson_plain name name json node first, ih later⟩
    · exact ih read

theorem withTypes_plain {property : Node} (plain : property.Everywhere Plain) :
    (withTypes property).Everywhere Plain :=
  .intro ⟨plain.here.distinct, plain.here.unlinked, plain.here.contexts⟩
    fun _ member => plain.child member

theorem changeAt_key {change : Node → Node} (keeps : ∀ node, (change node).key = node.key)
    (path : List String) (node : Node) : (changeAt change path node).key = node.key := by
  cases path with
  | nil => exact keeps node
  | cons name rest => rfl

theorem changeAt_plain {change : Node → Node} (keeps : ∀ node, (change node).key = node.key)
    (plainly : ∀ node, node.Everywhere Plain → (change node).Everywhere Plain)
    (path : List String) {node : Node} (plain : node.Everywhere Plain) :
    (changeAt change path node).Everywhere Plain := by
  induction path generalizing node with
  | nil => exact plainly node plain
  | cons name rest ih =>
    refine .intro ⟨?_, plain.here.unlinked, plain.here.contexts⟩ fun child member => ?_
    · -- Only one child changes, and it keeps its key.
      refine plain.here.distinct.map _ fun child => ?_
      split
      · exact changeAt_key keeps rest child
      · rfl
    · obtain ⟨original, present, result⟩ := List.mem_map.mp member
      have before := plain.child present
      subst result
      split
      · exact ih before
      · exact before

theorem completeTypes_plain {root : Node} (plain : root.Everywhere Plain) :
    (completeTypes root).Everywhere Plain := by
  have keeps (node : Node) : key { node with children := node.children.map withTypes } = node.key :=
    rfl
  refine changeAt_plain keeps (fun node before => ?_) properties plain
  refine .intro ⟨before.here.distinct.map _ fun _ => rfl, before.here.unlinked,
    before.here.contexts⟩ fun child member => ?_
  obtain ⟨original, present, result⟩ := List.mem_map.mp member
  exact result ▸ withTypes_plain (before.child present)

/-- The namespaces of a snapshot beside each other, as they were read. -/
def rootOf (spaces : List Node) : Node := ⟨Label.of "<root>", none, [], none, spaces⟩

theorem rootOf_plain {fields : List (String × Json)} {spaces : List Node}
    (read : readNamespaces fields namespaces = .ok spaces) : (rootOf spaces).Everywhere Plain := by
  -- The namespaces have different names, and each is read at most once.
  have distinct : DistinctKeys spaces := (readNamespaces_keys read).nodup (by decide)
  refine .intro ⟨distinct, rfl, ?_⟩ (readNamespaces_plain read)
  simp [rootOf]

theorem exists_spaces_of_ofJson {fields : List (String × Json)} {catalog : Catalog}
    (built : Catalog.ofJson (.object fields) = .ok catalog) :
    ∃ spaces, readNamespaces fields namespaces = .ok spaces ∧
      catalog.root = (completeTypes (rootOf spaces)).withAliases.1 := by
  obtain ⟨browsers, _, further⟩ := (bind_eq_ok_iff _ _ _).mp built
  obtain ⟨spaces, read, result⟩ := (bind_eq_ok_iff _ _ _).mp further
  cases result
  exact ⟨spaces, read, rfl⟩

/-- The tree of a catalog is a plain tree with other spellings added. -/
theorem exists_plain_of_ofJson {json : Json} {catalog : Catalog}
    (built : Catalog.ofJson json = .ok catalog) :
    ∃ node : Node, node.Everywhere Plain ∧ catalog.root = node.withAliases.1 := by
  cases json with
  | object fields =>
    obtain ⟨spaces, read, result⟩ := exists_spaces_of_ofJson built
    exact ⟨_, completeTypes_plain (rootOf_plain read), result⟩
  | null | boolean | number | text | list | unreadable => cases built

end Catalog

end Portability
