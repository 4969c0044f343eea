import Mathlib.Data.List.Nodup
import Portability.Catalog.Snapshot

/-!
# Siblings under their keys

The children of a node are found by key, and a new child stands behind the others unless its key is
taken. So a list of siblings acts as a finite map that never loses or replaces an entry, and adding
many nodes one after another lets the first of each new key win.
-/
namespace Portability.Node

/-- No two siblings have the same key. -/
def DistinctKeys (nodes : List Node) : Prop := (nodes.map key).Nodup

instance (nodes : List Node) : Decidable (DistinctKeys nodes) :=
  inferInstanceAs (Decidable (nodes.map key).Nodup)

theorem findKey?_eq_none_iff (nodes : List Node) (key : String) :
    findKey? nodes key = none ↔ key ∉ nodes.map Node.key := by
  simp [findKey?]

theorem mem_of_findKey? {nodes : List Node} {key : String} {node : Node}
    (found : findKey? nodes key = some node) : node ∈ nodes :=
  List.mem_of_find?_eq_some found

theorem key_of_findKey? {nodes : List Node} {key : String} {node : Node}
    (found : findKey? nodes key = some node) : node.key = key := by
  simpa using List.find?_some found

theorem findKey?_cons (first : Node) (rest : List Node) (key : String) :
    findKey? (first :: rest) key = (findKey? [first] key).or (findKey? rest key) := by
  by_cases same : first.key = key <;> simp [findKey?, same]

theorem findKey?_append (nodes others : List Node) (key : String) :
    findKey? (nodes ++ others) key = (findKey? nodes key).or (findKey? others key) := by
  simp [findKey?, List.find?_append]

/-- Where keys are distinct every sibling is found under its own key. -/
theorem findKey?_of_mem {nodes : List Node} (distinct : DistinctKeys nodes) {node : Node}
    (member : node ∈ nodes) : findKey? nodes node.key = some node := by
  induction nodes with
  | nil => cases member
  | cons first rest ih =>
    obtain ⟨fresh, others⟩ := List.nodup_cons.mp distinct
    rcases List.mem_cons.mp member with rfl | later
    · simp [findKey?]
    · have different : first.key ≠ node.key := fun same =>
        fresh (same ▸ List.mem_map_of_mem later)
      rw [findKey?_cons, ih others later]
      simp [findKey?, different]

theorem eq_of_key_eq {nodes : List Node} (distinct : DistinctKeys nodes) {first second : Node}
    (left : first ∈ nodes) (right : second ∈ nodes) (same : first.key = second.key) :
    first = second := by
  have found := findKey?_of_mem distinct left
  rw [same, findKey?_of_mem distinct right] at found
  exact (Option.some.inj found).symm

/-- A change that keeps the keys changes what is found and not where. -/
theorem findKey?_map (change : Node → Node) (keeps : ∀ node, (change node).key = node.key)
    (nodes : List Node) (key : String) :
    findKey? (nodes.map change) key = (findKey? nodes key).map change := by
  have same : (fun node : Node => node.key == key) ∘ change = fun node => node.key == key := by
    funext node
    simp [keeps]
  unfold findKey?
  rw [List.find?_map, same]

theorem map_key_map (change : Node → Node) (keeps : ∀ node, (change node).key = node.key)
    (nodes : List Node) : (nodes.map change).map key = nodes.map key := by
  simp [Function.comp_def, keeps]

theorem DistinctKeys.map {nodes : List Node} (distinct : DistinctKeys nodes)
    (change : Node → Node) (keeps : ∀ node, (change node).key = node.key) :
    DistinctKeys (nodes.map change) := by
  unfold DistinctKeys
  rw [map_key_map change keeps]
  exact distinct

/-! Adding one node. -/

theorem insert_of_taken {nodes : List Node} {node : Node} (taken : node.key ∈ nodes.map key) :
    insert nodes node = nodes := by
  have present : nodes.any (·.key == node.key) = true := by simpa using taken
  simp only [insert, present, if_true]

theorem insert_of_free {nodes : List Node} {node : Node} (free : node.key ∉ nodes.map key) :
    insert nodes node = nodes ++ [node] := by
  have absent : nodes.any (·.key == node.key) = false := by simpa using free
  simp only [insert, absent, Bool.false_eq_true, if_false]

theorem findKey?_insert (nodes : List Node) (node : Node) (key : String) :
    findKey? (insert nodes node) key = (findKey? nodes key).or (findKey? [node] key) := by
  by_cases taken : node.key ∈ nodes.map Node.key
  · -- A taken key is found among the old siblings, so the dropped node is never asked for.
    rw [insert_of_taken taken]
    by_cases same : node.key = key
    · subst same
      cases found : findKey? nodes node.key with
      | none => exact absurd taken ((findKey?_eq_none_iff _ _).mp found)
      | some held => rfl
    · simp [findKey?, same]
  · rw [insert_of_free taken, findKey?_append]

theorem insert_distinct {nodes : List Node} (distinct : DistinctKeys nodes) (node : Node) :
    DistinctKeys (insert nodes node) := by
  by_cases taken : node.key ∈ nodes.map key
  · rwa [insert_of_taken taken]
  · rw [insert_of_free taken]
    simpa [DistinctKeys, List.nodup_append] using
      ⟨distinct, fun other member same => taken (same ▸ List.mem_map_of_mem member)⟩

/-! Adding many nodes. The inductions are on the nodes to add, for any siblings to start with. -/

/-- What was there stays, and of the new nodes with one key the first is found. -/
theorem findKey?_foldl_insert (nodes added : List Node) (key : String) :
    findKey? (added.foldl insert nodes) key = (findKey? nodes key).or (findKey? added key) := by
  induction added generalizing nodes with
  | nil => simp [findKey?]
  | cons first rest ih =>
    rw [List.foldl_cons, ih, findKey?_insert, Option.or_assoc, ← findKey?_cons]

theorem foldl_insert_distinct {nodes : List Node} (distinct : DistinctKeys nodes)
    (added : List Node) : DistinctKeys (added.foldl insert nodes) := by
  induction added generalizing nodes with
  | nil => exact distinct
  | cons first rest ih => exact ih (insert_distinct distinct first)

/-- The old siblings come first, in their order, and behind them only new nodes. -/
theorem foldl_insert_eq_append (nodes added : List Node) :
    ∃ fresh, fresh.Sublist added ∧ added.foldl insert nodes = nodes ++ fresh := by
  induction added generalizing nodes with
  | nil => exact ⟨[], List.Sublist.slnil, by simp⟩
  | cons first rest ih =>
    obtain ⟨fresh, among, result⟩ := ih (insert nodes first)
    by_cases taken : first.key ∈ nodes.map key
    · rw [insert_of_taken taken] at result
      exact ⟨fresh, among.cons first, by rw [List.foldl_cons, insert_of_taken taken, result]⟩
    · refine ⟨first :: fresh, among.cons_cons first, ?_⟩
      rw [List.foldl_cons, result, insert_of_free taken, List.append_assoc, List.singleton_append]

theorem foldl_insert_of_taken (nodes added : List Node)
    (taken : ∀ node ∈ added, node.key ∈ nodes.map key) : added.foldl insert nodes = nodes := by
  induction added with
  | nil => rfl
  | cons first rest ih =>
    rw [List.foldl_cons, insert_of_taken (taken first List.mem_cons_self)]
    exact ih fun node member => taken node (List.mem_cons_of_mem first member)

theorem key_mem_foldl_insert (nodes added : List Node) {node : Node} (member : node ∈ added) :
    node.key ∈ (added.foldl insert nodes).map key := by
  by_contra absent
  have missing := (findKey?_eq_none_iff _ _).mpr absent
  rw [findKey?_foldl_insert, Option.or_eq_none_iff] at missing
  exact (findKey?_eq_none_iff _ _).mp missing.2 (List.mem_map_of_mem member)

/-- A change of the old siblings can wait until new ones are added, if it leaves those alone. -/
theorem map_foldl_insert (change : Node → Node) (keeps : ∀ node, (change node).key = node.key)
    (nodes added : List Node) (spares : ∀ node ∈ added, node.key ∉ nodes.map key →
      change node = node) :
    (added.foldl insert nodes).map change = added.foldl insert (nodes.map change) := by
  induction added generalizing nodes with
  | nil => rfl
  | cons first rest ih =>
    rw [List.foldl_cons, List.foldl_cons]
    by_cases taken : first.key ∈ nodes.map key
    · rw [insert_of_taken taken,
        insert_of_taken (by rw [map_key_map change keeps]; exact taken)]
      exact ih nodes fun node member => spares node (List.mem_cons_of_mem first member)
    · have moved : insert (nodes.map change) first = (insert nodes first).map change := by
        rw [insert_of_free taken,
          insert_of_free (by rw [map_key_map change keeps]; exact taken), List.map_append,
          List.map_singleton, spares first List.mem_cons_self taken]
      rw [moved]
      -- Fewer keys are free now, so the change still spares all nodes that are to come.
      refine ih (insert nodes first) fun node member free => ?_
      refine spares node (List.mem_cons_of_mem first member) fun present => free ?_
      rw [insert_of_free taken, List.map_append]
      exact List.mem_append_left _ present

end Portability.Node
