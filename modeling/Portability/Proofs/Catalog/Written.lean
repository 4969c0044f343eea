import Mathlib.Data.List.Forall2
import Portability.Proofs.Catalog.Faults
import Portability.Proofs.Catalog.Idempotence
import Portability.Proofs.Catalog.WellFormed
import Portability.Proofs.Keyed

/-!
# Terms as they are written

A path of keys in a snapshot leads to a value, and the same path in the catalog to the node that was
read from it, whatever happened to the tree since. A later step may add nodes, reorder siblings or
change what else a node holds. It is enough that each step from one node to the next can be made in
the new tree as well, and leads to a node with the same name and the same tables.
-/
namespace Portability

namespace Node

/--
A path of keys in a document, none of which is reserved, to the value at its end. At each level no
other child has a key with the same lower-case form.
-/
inductive Leads : Json → List String → Json → Prop
  | here (json : Json) : Leads json [] json
  | there {fields : List (String × Json)} {name : String} {inner value : Json}
      {rest : List String} (member : (name, inner) ∈ fields) (free : isReserved name = false)
      (alone : ∀ other ∈ fields, isReserved other.1 = false →
        Text.lowerCase other.1 = Text.lowerCase name → other = (name, inner))
      (further : Leads inner rest value) :
      Leads (.object fields) (name :: rest) value

/-- Where all keys in an object have different lower-case forms, each stands alone. -/
theorem Leads.of_nodup {fields : List (String × Json)} {name : String} {inner value : Json}
    {rest : List String} (distinct : (fields.map fun field => Text.lowerCase field.1).Nodup)
    (member : (name, inner) ∈ fields) (free : isReserved name = false)
    (further : Leads inner rest value) : Leads (.object fields) (name :: rest) value :=
  .there member free (fun _ present _ same =>
    List.inj_on_of_nodup_map distinct present member same) further

/-- What an object has for its own support table. -/
def ownTable? : Json → Option Json
  | .object fields => ((fields.filter (·.1 == tableField)).getLast?).map (·.2)
  | _ => none

/-- Whether a field is a context that has a support table of its own. -/
def isOwnContext (field : String × Json) : Bool :=
  !isReserved field.1 && isContextName field.1 && (ownTable? field.2).isSome

/-- The contexts in an object that have support tables of their own. -/
def ownContexts : Json → List (String × Json)
  | .object fields => fields.filter isOwnContext
  | _ => []

/-- The table of a context in the document, and what is kept of it. -/
def ContextRead (context : String × Json) (entry : String × SupportTable) : Prop :=
  entry.1 = context.1 ∧ (ownTable? context.2).map SupportTable.ofJson? = some (some entry.2)

/-- Where the tables of a term come from, by what the document has for it. -/
inductive WrittenSource (json : Json) : Option TableSource → Prop
  | direct {own : Json} {table : SupportTable} (has : ownTable? json = some own)
      (decoded : SupportTable.ofJson? own = some table) : WrittenSource json (some (.direct table))
  | byContext {tables : List (String × SupportTable)} (bare : ownTable? json = none)
      (decoded : List.Forall₂ ContextRead (ownContexts json) tables) (inhabited : tables ≠ []) :
      WrittenSource json (some (.byContext tables))
  | none (bare : ownTable? json = none) (contexts : ownContexts json = []) :
      WrittenSource json none

/-! One object, as it is read. -/

/-- Each field has an entry, in the order of the document. -/
def EntryRead (path : String) (field : String × Json) (entry : Entry) : Prop :=
  fieldEntry (path ++ "." ++ field.1) field.1 field.2 = .ok entry

theorem entriesOfFields_eq_ok_iff {path : String} {fields : List (String × Json)}
    {entries : List Entry} :
    entriesOfFields path fields = .ok entries ↔ List.Forall₂ (EntryRead path) fields entries := by
  induction fields generalizing entries with
  | nil => simp [entriesOfFields, eq_comm]
  | cons field rest ih =>
    rw [entriesOfFields_cons, bind_eq_ok_iff, List.forall₂_cons_left_iff]
    constructor
    · rintro ⟨entry, first, further⟩
      obtain ⟨others, later, rfl⟩ := (map_eq_ok_iff _ _ _).mp further
      exact ⟨entry, others, first, ih.mp later, rfl⟩
    · rintro ⟨entry, others, first, later, rfl⟩
      exact ⟨entry, first, (map_eq_ok_iff _ _ _).mpr ⟨others, ih.mpr later, rfl⟩⟩

theorem exists_entries {name path : String} {fields : List (String × Json)} {node : Node}
    (read : ofJson name path (.object fields) = .ok node) :
    ∃ entries, List.Forall₂ (EntryRead path) fields entries ∧ node = ofEntries name entries := by
  rw [ofJson_object, map_eq_ok_iff] at read
  obtain ⟨entries, entered, same⟩ := read
  exact ⟨entries, entriesOfFields_eq_ok_iff.mp entered, same.symm⟩

/-- All that a field can say. -/
theorem EntryRead.cases {path : String} {field : String × Json} {entry : Entry}
    (read : EntryRead path field entry) :
    (∃ table, field.1 = tableField ∧ SupportTable.ofJson? field.2 = some table ∧
      entry = .table table) ∨
    (∃ names, field.1 ∈ dataTypeFields ∧ entry = .dataTypes names) ∨
    (∃ node, isReserved field.1 = false ∧
      ofJson field.1 (path ++ "." ++ field.1) field.2 = .ok node ∧ entry = .child node) ∨
    (demand? field.1 = none ∧ entry = .nothing) := by
  unfold EntryRead at read
  rw [fieldEntry_eq] at read
  split at read
  next demanded =>
    left
    simp only [tableEntry] at read
    split at read <;> cases read
    next table decoded => exact ⟨table, demand?_eq_table_iff.mp demanded, decoded, rfl⟩
  next demanded =>
    right; left
    simp only [dataTypesEntry] at read
    split at read <;> cases read
    next names _ => exact ⟨names, demand?_eq_dataTypes_iff.mp demanded, rfl⟩
  next demanded =>
    right; right; left
    obtain ⟨node, inside, same⟩ := (map_eq_ok_iff _ _ _).mp read
    exact ⟨node, demand?_eq_term_iff.mp demanded, inside, same.symm⟩
  next demanded =>
    right; right; right
    cases read
    exact ⟨demanded, rfl⟩

/-- The table that a field says is what was decoded of it. -/
theorem EntryRead.table? {path : String} {field : String × Json} {entry : Entry}
    (read : EntryRead path field entry) :
    entry.table?.map some =
      if field.1 == tableField then some (SupportTable.ofJson? field.2) else none := by
  rcases read.cases with ⟨table, named, decoded, rfl⟩ | ⟨names, named, rfl⟩ |
    ⟨node, free, _, rfl⟩ | ⟨undemanded, rfl⟩
  · simp [named, decoded, Entry.table?]
  · have other : field.1 ≠ tableField := by
      intro same
      rw [same] at named
      revert named
      decide
    simp [other, Entry.table?]
  · have other : field.1 ≠ tableField := by
      intro same
      simp [same, isReserved_tableField] at free
    simp [other, Entry.table?]
  · have other : field.1 ≠ tableField := by
      intro same
      simp [demand?_eq_table_iff.mpr same] at undemanded
    simp [other, Entry.table?]

/-- A field becomes a child just if its name is not reserved. -/
theorem EntryRead.exists_child {path : String} {field : String × Json} {entry : Entry}
    (read : EntryRead path field entry) (free : isReserved field.1 = false) :
    ∃ node, entry.child? = some node ∧
      ofJson field.1 (path ++ "." ++ field.1) field.2 = .ok node := by
  rcases read.cases with ⟨_, named, _⟩ | ⟨_, named, _⟩ | ⟨node, _, inside, rfl⟩ | ⟨undemanded, _⟩
  · simp [named, isReserved_tableField] at free
  · simp [isReserved_of_mem_dataTypeFields named] at free
  · exact ⟨node, rfl, inside⟩
  · simp [demand?_eq_term_iff.mpr free] at undemanded

theorem EntryRead.child?_of_isReserved {path : String} {field : String × Json} {entry : Entry}
    (read : EntryRead path field entry) (reserved : isReserved field.1 = true) :
    entry.child? = none := by
  rcases read.cases with ⟨_, _, _, rfl⟩ | ⟨_, _, rfl⟩ | ⟨_, free, _⟩ | ⟨_, rfl⟩
  · rfl
  · rfl
  · simp [reserved] at free
  · rfl

theorem mem_children_of_read {path : String} {fields : List (String × Json)}
    {entries : List Entry} (read : List.Forall₂ (EntryRead path) fields entries) (node : Node) :
    node ∈ entries.filterMap Entry.child? ↔ ∃ field ∈ fields, isReserved field.1 = false ∧
      ofJson field.1 (path ++ "." ++ field.1) field.2 = .ok node := by
  induction read with
  | nil => simp
  | @cons field entry _ _ first _ ih =>
    rw [List.exists_mem_cons_iff, ← ih]
    cases free : isReserved field.1 with
    | true => simp [first.child?_of_isReserved free]
    | false =>
      obtain ⟨child, said, inside⟩ := first.exists_child free
      simp [said, inside, eq_comm]

/-! The tables of one object. -/

/-- The table that is kept is what was decoded from the last field for one. -/
theorem ownTable?_of_read {path : String} {fields : List (String × Json)} {entries : List Entry}
    (read : List.Forall₂ (EntryRead path) fields entries) :
    (entries.filterMap Entry.table?).getLast?.map some =
      (ownTable? (.object fields)).map SupportTable.ofJson? := by
  have each : (entries.filterMap Entry.table?).map some =
      (fields.filter (·.1 == tableField)).map fun field => SupportTable.ofJson? field.2 := by
    induction read with
    | nil => rfl
    | @cons field entry _ _ first _ ih =>
      have own := first.table?
      rw [List.filter_cons, List.filterMap_cons]
      cases named : field.1 == tableField with
      | true =>
        rw [if_pos named] at own
        obtain ⟨table, held, same⟩ := Option.map_eq_some_iff.mp own
        simp [held, ih, ← same]
      | false =>
        rw [named, if_neg Bool.false_ne_true, Option.map_eq_none_iff] at own
        simp [own, ih]
  rw [← List.getLast?_map, each, List.getLast?_map, ownTable?, Option.map_map]
  rfl

theorem tableSource_some (own : SupportTable) (contexts : List Node) :
    tableSource (some own) contexts = some (.direct own) := by
  simp [tableSource]

theorem tableSource_none (contexts : List Node) :
    tableSource none contexts =
      if contexts.filterMap contextTable? = [] then none
      else some (.byContext (contexts.filterMap contextTable?)) := by
  unfold tableSource
  cases contexts.filterMap contextTable? <;> simp

/-- What counts of a context for its parent is its own table. -/
theorem contextTable?_ofEntries (name : String) (entries : List Entry) :
    contextTable? (ofEntries name entries) =
      (entries.filterMap Entry.table?).getLast?.map (name, ·) := by
  cases own : (entries.filterMap Entry.table?).getLast? with
  | none =>
    simp only [contextTable?, ofEntries, own, tableSource_none]
    split
    next held =>
      split at held <;> cases held
    · rfl
  | some table =>
    simp only [contextTable?, ofEntries, own, tableSource_some]
    rfl

theorem contextTable?_of_read {name path : String} {json : Json} {node : Node}
    (read : ofJson name path json = .ok node) :
    (contextTable? node).map some =
      (ownTable? json).map fun own => (SupportTable.ofJson? own).map (name, ·) := by
  obtain ⟨fields, rfl⟩ := exists_fields_of_ofJson read
  obtain ⟨entries, each, rfl⟩ := exists_entries read
  have own := congrArg (Option.map (Option.map (name, ·))) (ownTable?_of_read each)
  rw [contextTable?_ofEntries]
  simpa only [Option.map_map, Function.comp_def, Option.map_some] using own

/-- The contexts that count are those with a table of their own, in the order of the document. -/
theorem contextTables_of_read {path : String} {fields : List (String × Json)} {entries : List Entry}
    (read : List.Forall₂ (EntryRead path) fields entries) :
    List.Forall₂ ContextRead (fields.filter isOwnContext)
      (((entries.filterMap Entry.child?).filter (isContextName ·.name)).filterMap
        contextTable?) := by
  induction read with
  | nil => exact .nil
  | @cons field entry _ _ first _ ih =>
    cases free : isReserved field.1 with
    | true =>
      -- A reserved field is no child, so it is no context on either side.
      have silent := first.child?_of_isReserved free
      simpa [isOwnContext, free, silent] using ih
    | false =>
      obtain ⟨node, said, inside⟩ := first.exists_child free
      have named : node.name = field.1 := congrArg Label.text (ofJson_label inside)
      -- Whether the child counts is decided by its own fields, without what is below it.
      have counted := contextTable?_of_read inside
      rw [List.filterMap_cons_some said, List.filter_cons, List.filter_cons, named]
      cases context : isContextName field.1 with
      | false => simpa [isOwnContext, context] using ih
      | true =>
        rw [if_pos rfl]
        cases has : ownTable? field.2 with
        | none =>
          rw [has, Option.map_none, Option.map_eq_none_iff] at counted
          rw [List.filterMap_cons_none counted]
          simpa [isOwnContext, has] using ih
        | some own =>
          rw [has, Option.map_some, Option.map_eq_some_iff] at counted
          obtain ⟨_, held, same⟩ := counted
          obtain ⟨table, decoded, rfl⟩ := Option.map_eq_some_iff.mp same.symm
          rw [List.filterMap_cons_some held, if_pos (by simp [isOwnContext, free, context, has])]
          refine .cons ⟨rfl, ?_⟩ ih
          rw [has, Option.map_some, decoded]

/-- A node has the tables that the document has for it. -/
theorem writtenSource_of_read {name path : String} {json : Json} {node : Node}
    (read : ofJson name path json = .ok node) : WrittenSource json node.table := by
  obtain ⟨fields, rfl⟩ := exists_fields_of_ofJson read
  obtain ⟨entries, each, rfl⟩ := exists_entries read
  have own := ownTable?_of_read each
  have contexts := contextTables_of_read each
  rw [ofEntries]
  dsimp only
  generalize (entries.filterMap Entry.table?).getLast? = kept at own ⊢
  generalize (entries.filterMap Entry.child?).filter (isContextName ·.name) = nodes at contexts ⊢
  cases kept with
  | some table =>
    obtain ⟨json, has, decoded⟩ := Option.map_eq_some_iff.mp own.symm
    rw [tableSource_some]
    exact .direct has decoded
  | none =>
    -- Only a term without a table of its own has to do with its contexts.
    have bare := Option.map_eq_none_iff.mp own.symm
    rw [tableSource_none]
    split
    next nothing =>
      rw [nothing, List.forall₂_nil_right_iff] at contexts
      exact .none bare contexts
    next inhabited => exact .byContext bare contexts inhabited

/-! Paths in the tree as it was read. -/

/-- The one child with some key in the document is the child with that key. -/
theorem child?_of_read {name path : String} {fields : List (String × Json)} {node : Node}
    (read : ofJson name path (.object fields) = .ok node) {field : String} {inner : Json}
    (member : (field, inner) ∈ fields) (free : isReserved field = false)
    (alone : ∀ other ∈ fields, isReserved other.1 = false →
      Text.lowerCase other.1 = Text.lowerCase field → other = (field, inner)) :
    ∃ child, node.child? field = some child ∧
      ofJson field (path ++ "." ++ field) inner = .ok child := by
  obtain ⟨child, inside⟩ : ∃ child, ofJson field (path ++ "." ++ field) inner = .ok child := by
    cases exists_ofJson_iff.mp ⟨node, read⟩ with
    | object _ _ children => exact exists_ofJson_iff.mpr (children field inner member free)
  refine ⟨child, ?_, inside⟩
  obtain ⟨entries, each, rfl⟩ := exists_entries read
  have listed := (mem_children_of_read each child).mpr ⟨(field, inner), member, free, inside⟩
  have keyed : child.key = Text.lowerCase field := congrArg Label.key (ofJson_label inside)
  -- Contexts are put last, but no child is left out of both parts.
  have among (other : Node) :
      other ∈ (entries.filterMap Entry.child?).filter (!isContextName ·.name) ++
        (entries.filterMap Entry.child?).filter (isContextName ·.name) ↔
        other ∈ entries.filterMap Entry.child? := by
    rw [List.mem_append, List.mem_filter, List.mem_filter]
    cases isContextName other.name <;> simp
  rw [child?, ofEntries]
  dsimp only
  rw [findKey?_foldl_insert, show findKey? [] _ = none from rfl, Option.none_or]
  cases found : findKey? _ (Text.lowerCase field) with
  | none =>
    rw [findKey?_eq_none_iff] at found
    exact absurd (keyed ▸ List.mem_map_of_mem ((among child).mpr listed)) found
  | some held =>
    -- What was found comes from a field with this key, and there is only the one.
    obtain ⟨other, present, unreserved, read⟩ :=
      (mem_children_of_read each held).mp ((among held).mp (mem_of_findKey? found))
    have same : Text.lowerCase other.1 = Text.lowerCase field :=
      (congrArg Label.key (ofJson_label read)).symm.trans (key_of_findKey? found)
    cases alone other present unreserved same
    rw [inside] at read
    cases read
    rfl

/-- In the tree as it was read a path leads to what was read at its end. -/
theorem at?_of_read {name path : String} {json value : Json} {keys : List String} {node : Node}
    (written : Leads json keys value) (read : ofJson name path json = .ok node) :
    ∃ found place, node.at? keys = some found ∧
      ofJson (keys.getLastD name) place value = .ok found := by
  induction written generalizing name path node with
  | here json => exact ⟨node, path, rfl, read⟩
  | @there fields field inner value rest member free alone _ ih =>
    obtain ⟨child, looked, inside⟩ := child?_of_read read member free alone
    have real : child.isAlias = false := (ofJson_plain _ _ _ _ inside).here.isAlias
    obtain ⟨found, place, arrived, result⟩ := ih inside
    refine ⟨found, place, ?_, ?_⟩
    · rw [at?_cons, step?_of_child? looked real]
      exact arrived
    · cases rest <;> exact result

/-! What a later step has to leave as it is. -/

/-- Whether every path leads in the second tree to a node with the same name and tables. -/
def Keeps (node other : Node) : Prop :=
  ∀ path found, node.at? path = some found →
    ∃ held, other.at? path = some held ∧ held.label = found.label ∧ held.table = found.table

theorem Keeps.refl (node : Node) : Keeps node node :=
  fun _ found arrived => ⟨found, arrived, rfl, rfl⟩

theorem Keeps.trans {first second third : Node} (here : Keeps first second)
    (there : Keeps second third) : Keeps first third := by
  intro path found arrived
  obtain ⟨held, reached, label, table⟩ := here path found arrived
  obtain ⟨last, ended, label', table'⟩ := there path held reached
  exact ⟨last, ended, label'.trans label, table'.trans table⟩

/-- It is enough that each single step leads to where the rest is kept. -/
theorem Keeps.of_step {node other : Node} (label : other.label = node.label)
    (table : other.table = node.table)
    (step : ∀ term next, node.step? term = some next →
      ∃ held, other.step? term = some held ∧ Keeps next held) : Keeps node other := by
  intro path found arrived
  cases path with
  | nil =>
    cases arrived
    exact ⟨other, rfl, label, table⟩
  | cons term rest =>
    rw [at?_cons, Option.bind_eq_some_iff] at arrived
    obtain ⟨next, stepped, further⟩ := arrived
    obtain ⟨held, reached, kept⟩ := step term next stepped
    rw [at?_cons, reached]
    exact kept rest found further

/-- A change of the children that keeps keys and links moves no step. -/
theorem step?_map {node other : Node} (change : Node → Node)
    (children : other.children = node.children.map change)
    (keys : ∀ child, (change child).key = child.key)
    (links : ∀ child, (change child).link = child.link) (term : String) :
    other.step? term = (node.step? term).map change := by
  have moved (name : String) : other.child? name = (node.child? name).map change := by
    rw [child?, children, findKey?_map change keys]
    rfl
  rw [step?_eq, step?_eq, moved]
  cases node.child? term with
  | none => rfl
  | some child =>
    simp only [Option.map_some, Option.bind_some, links]
    split
    · exact moved _
    · rfl

theorem Keeps.of_children {node other : Node} (label : other.label = node.label)
    (table : other.table = node.table) (change : Node → Node)
    (children : other.children = node.children.map change)
    (keys : ∀ child, (change child).key = child.key)
    (links : ∀ child, (change child).link = child.link)
    (kept : ∀ child, Keeps child (change child)) : Keeps node other := by
  refine .of_step label table fun term next stepped => ⟨change next, ?_, kept next⟩
  rw [step?_map change children keys links, stepped]
  rfl

/-- The link of a node is the business of its parent. -/
theorem Keeps.relinked {node other : Node} (kept : Keeps node other) (link : Option AliasLink) :
    Keeps node { other with link } := by
  intro path found arrived
  obtain ⟨held, reached, label, table⟩ := kept path found arrived
  cases path with
  | nil =>
    cases reached
    exact ⟨_, rfl, label, table⟩
  | cons term rest => exact ⟨held, reached, label, table⟩

theorem Keeps.marked {node other : Node} (kept : Keeps node other) : Keeps node other.marked := by
  unfold Node.marked
  split
  · exact kept.relinked _
  · exact kept

/-- A child is found where it was before the pass, after the pass below it and perhaps marked. -/
theorem child?_withAliases {node child : Node} {term : String}
    (plain : node.Everywhere Plain) (looked : node.child? term = some child) :
    node.withAliases.1.child? term = some child.withAliases.1.marked := by
  have real := (plain.child (mem_children_of_child? looked)).here.isAlias
  have deep : child.deepened = child.withAliases.1 := by
    rw [deepened, real, if_neg Bool.false_ne_true]
  rw [child?] at looked ⊢
  rw [withAliases_children plain.here.distinct, withSpellings, findKey?_foldl_insert,
    findKey?_map marked marked_key, findKey?_map deepened deepened_key, looked, Option.map_some,
    Option.map_some, Option.some_or, deep]

/-- Other spellings get in the way of no path. -/
theorem keeps_withAliases {node : Node} (plain : node.Everywhere Plain) :
    Keeps node node.withAliases.1 := by
  induction node using induct with
  | step node ih =>
    refine .of_step (withAliases_label node) (withAliases_table node) fun term next stepped => ?_
    -- No child of a plain node is another spelling, so a step goes to the child itself.
    obtain ⟨child, looked, same⟩ : ∃ child, node.child? term = some child ∧ child = next := by
      rw [step?_eq, Option.bind_eq_some_iff] at stepped
      obtain ⟨child, looked, reached⟩ := stepped
      rw [(plain.child (mem_children_of_child? looked)).here.unlinked] at reached
      exact ⟨child, looked, Option.some.inj reached⟩
    subst same
    have member := mem_children_of_child? looked
    have real : child.withAliases.1.marked.isAlias = false := by
      rw [marked_isAlias, isAlias, withAliases_link, (plain.child member).here.unlinked]
    exact ⟨_, step?_of_child? (child?_withAliases plain looked) real,
      (ih child member (plain.child member)).marked⟩

end Node

namespace Catalog

open Node

theorem keeps_changeAt {change : Node → Node} (label : ∀ node, (change node).label = node.label)
    (link : ∀ node, (change node).link = node.link) (kept : ∀ node, Keeps node (change node))
    (path : List String) (node : Node) : Keeps node (changeAt change path node) := by
  have keys (path : List String) (node : Node) : (changeAt change path node).key = node.key :=
    changeAt_key (fun node => congrArg Label.key (label node)) path node
  have links (path : List String) (node : Node) : (changeAt change path node).link = node.link := by
    cases path with
    | nil => exact link node
    | cons name rest => rfl
  induction path generalizing node with
  | nil => exact kept node
  | cons name rest ih =>
    refine .of_children rfl rfl _ rfl ?_ ?_ ?_
    · intro child
      split
      · exact keys rest child
      · rfl
    · intro child
      split
      · exact links rest child
      · rfl
    · intro child
      split
      · exact ih child
      · exact .refl child

/-- The data types of properties are nothing that a path asks for. -/
theorem keeps_completeTypes (root : Node) : Keeps root (completeTypes root) := by
  unfold completeTypes
  refine keeps_changeAt ?_ ?_ (fun node => ?_) properties root
  · intro node
    rfl
  · intro node
    rfl
  refine .of_children rfl rfl withTypes rfl (fun _ => rfl) (fun _ => rfl) fun property => ?_
  exact .of_children rfl rfl id (List.map_id _).symm (fun _ => rfl) (fun _ => rfl) .refl

theorem exists_namespace {fields : List (String × Json)} {names : List String}
    {nodes : List Node} (read : readNamespaces fields names = .ok nodes) {space : String}
    {json : Json} (among : space ∈ names) (held : Keyed.get? fields space = some json) :
    ∃ node ∈ nodes, Node.ofJson space space json = .ok node := by
  induction names generalizing nodes with
  | nil => cases among
  | cons name rest ih =>
    rw [readNamespaces] at read
    by_cases own : space = name
    · subst own
      rw [held] at read
      obtain ⟨node, first, further⟩ := (bind_eq_ok_iff _ _ _).mp read
      obtain ⟨others, _, result⟩ := (bind_eq_ok_iff _ _ _).mp further
      cases result
      exact ⟨node, List.mem_cons_self, first⟩
    · have later : space ∈ rest := (List.mem_cons.mp among).resolve_left own
      split at read
      · obtain ⟨node, _, further⟩ := (bind_eq_ok_iff _ _ _).mp read
        obtain ⟨others, spaces, result⟩ := (bind_eq_ok_iff _ _ _).mp further
        cases result
        obtain ⟨found, member, inside⟩ := ih spaces later
        exact ⟨found, List.mem_cons_of_mem node member, inside⟩
      · exact ih read later

/-- The node at the end of a written path is the one that was read there, by its name and tables. -/
theorem exists_node_of_leads {snapshot value : Json} {catalog : Catalog} {space : String}
    {keys : List String} (built : ofJson snapshot = .ok catalog) (known : space ∈ namespaces)
    (written : Leads snapshot (space :: keys) value) :
    ∃ node, catalog.root.at? (space :: keys) = some node ∧ node.name = keys.getLastD space ∧
      WrittenSource value node.table := by
  cases written with
  | @there fields _ inner _ _ member free alone further =>
    obtain ⟨spaces, read, result⟩ := exists_spaces_of_ofJson built
    have plain := rootOf_plain read
    have held : Keyed.get? fields space = some inner := by
      refine Keyed.get?_of_alone member fun other present same => ?_
      exact alone other present (by rw [same, free]) (by rw [same])
    obtain ⟨inside, among, readSpace⟩ := exists_namespace read known held
    obtain ⟨found, place, arrived, readFound⟩ := at?_of_read further readSpace
    -- The namespace is a child of the root that was read, and the path goes on inside it.
    have looked : (rootOf spaces).child? space = some inside := by
      have keyed : inside.key = Text.lowerCase space := congrArg Label.key (ofJson_label readSpace)
      rw [child?, ← keyed]
      exact findKey?_of_mem plain.here.distinct among
    have reached : (rootOf spaces).at? (space :: keys) = some found := by
      rw [at?_cons, step?_of_child? looked (plain.child among).here.isAlias]
      exact arrived
    -- Neither the data types nor the other spellings that were added since lose it.
    obtain ⟨node, ended, label, table⟩ := ((keeps_completeTypes (rootOf spaces)).trans
      (keeps_withAliases (completeTypes_plain plain))) (space :: keys) found reached
    refine ⟨node, result ▸ ended, ?_, ?_⟩
    · rw [name, label, ofJson_label readFound]
      rfl
    · rw [table]
      exact writtenSource_of_read readFound

/--
A path of keys that no other child shares at any level leads in the catalog, in any letter case, to
the term that is written there: it has the name of the last key and is no other spelling, and its
tables are those in the document. That is its own table or, if it has none, those of its contexts.
-/
theorem written_terms_found {snapshot value : Json} {catalog : Catalog} {space : String}
    {keys path : List String} (built : ofJson snapshot = .ok catalog) (known : space ∈ namespaces)
    (written : Leads snapshot (space :: keys) value)
    (spelled : path.map Text.lowerCase = (space :: keys).map Text.lowerCase) :
    ∃ node, catalog.root.at? path = some node ∧ some node.name = (space :: keys).getLast? ∧
      node.isAlias = false ∧ WrittenSource value node.table := by
  obtain ⟨node, arrived, named, source⟩ := exists_node_of_leads built known written
  rw [← at?_congr catalog.root spelled] at arrived
  refine ⟨node, arrived, ?_, ?_, source⟩
  · rw [named, List.getLastD_eq_getLast?, List.getLast?_cons]
  · exact isAlias_of_at? (root_wellFormed built) (root_isAlias built) arrived

/-- The path in the sample to a term that has its table from one of its contexts. -/
theorem leads_sample : ∃ value, Leads sample ["css", "properties", "align-items"] value :=
  ⟨_, .of_nodup (by decide) (.head _) rfl <|
    .of_nodup (by decide) (.head _) rfl <|
    .of_nodup (by decide) (.tail _ (.tail _ (.head _))) rfl (.here _)⟩

theorem written_terms_found_sample :
    ∃ value, Leads sample ["css", "properties", "align-items"] value ∧
    ∃ node, sampleCatalog.root.at? ["CSS", "Properties", "Align-Items"] = some node ∧
      some node.name = ["css", "properties", "align-items"].getLast? ∧ node.isAlias = false ∧
      WrittenSource value node.table := by
  obtain ⟨value, written⟩ := leads_sample
  exact ⟨value, written, written_terms_found ofJson_sample (by decide) written (by decide)⟩

/-- Of its two contexts one has a table of its own. -/
example :
    ((sampleCatalog.root.at? ["CSS", "Properties", "Align-Items"]).bind Node.table).map
      TableSource.contexts = some ["flex_context"] := by
  decide

end Catalog

end Portability
