import Mathlib.Data.List.Induction
import Mathlib.Data.List.Nodup

/-!
# Grouping by key

Items are put into groups one after another: an item joins the group with its key, or starts one
behind the others. What comes out can be said of the whole list at once: one group for each distinct
key in the order of first occurrence, made of all items with that key. The inductions go from the
end of the list, where the item that came last stands.
-/
namespace Portability

section Distinct

variable {α : Type} [BEq α] [LawfulBEq α]

theorem eraseDups_concat (items : List α) (last : α) :
    (items ++ [last]).eraseDups =
      if last ∈ items then items.eraseDups else items.eraseDups ++ [last] := by
  rw [List.eraseDups_append]
  by_cases seen : last ∈ items <;> simp [List.removeAll, List.eraseDups_cons, seen]

theorem nodup_eraseDups (items : List α) : items.eraseDups.Nodup := by
  induction items using List.reverseRecOn with
  | nil => exact List.nodup_nil
  | append_singleton rest last ih =>
    rw [eraseDups_concat]
    split
    · exact ih
    next fresh =>
      refine List.nodup_append.mpr ⟨ih, List.nodup_singleton last, fun item member other same => ?_⟩
      rw [List.mem_singleton.mp same]
      exact fun equal => fresh (equal ▸ List.mem_eraseDups.mp member)

theorem eraseDups_filter (items : List α) (keep : α → Bool) :
    (items.filter keep).eraseDups = items.eraseDups.filter keep := by
  induction items using List.reverseRecOn with
  | nil => rfl
  | append_singleton rest last ih =>
    rw [List.filter_append, eraseDups_concat]
    cases kept : keep last <;> by_cases seen : last ∈ rest <;>
      simp [eraseDups_concat, List.filter_append, kept, seen, ih]

theorem perm_eraseDups {items others : List α} (permuted : items.Perm others) :
    items.eraseDups.Perm others.eraseDups := by
  rw [List.perm_ext_iff_of_nodup (nodup_eraseDups items) (nodup_eraseDups others)]
  intro item
  simp only [List.mem_eraseDups, permuted.mem_iff]

end Distinct

section Parts

variable {α κ : Type} [DecidableEq κ]

/-- The parts of a list by distinct keys hold each item with one of the keys once. -/
theorem perm_flatMap_filter {keys : List κ} (distinct : keys.Nodup) (key : α → κ)
    (items : List α) :
    (keys.flatMap fun own => items.filter (key · = own)).Perm (items.filter (key · ∈ keys)) := by
  induction keys with
  | nil => simp
  | cons first rest ih =>
    obtain ⟨fresh, others⟩ := List.nodup_cons.mp distinct
    have own : (items.filter (key · ∈ first :: rest)).filter (key · = first) =
        items.filter (key · = first) := by
      rw [List.filter_filter]
      refine List.filter_congr fun item _ => ?_
      by_cases same : key item = first <;> simp [same]
    have other : (items.filter (key · ∈ first :: rest)).filter (fun item => !(key item = first)) =
        items.filter (key · ∈ rest) := by
      rw [List.filter_filter]
      refine List.filter_congr fun item _ => ?_
      by_cases same : key item = first <;> simp [same, fresh]
    have parts := List.filter_append_perm (fun item => key item = first)
      (items.filter (key · ∈ first :: rest))
    rw [own, other] at parts
    exact ((ih others).append_left _).trans parts

end Parts

/-- A way of putting items into groups. Items without a key belong to no group, and a group keeps
the key that it started with. -/
structure Grouping (Item Key Group : Type) where
  key? : Item → Option Key
  start : Key → Item → Group
  add : Group → Item → Group
  keyOf : Group → Key
  keyOf_start : ∀ {key item}, key? item = some key → keyOf (start key item) = key
  keyOf_add : ∀ group item, keyOf (add group item) = keyOf group

namespace Grouping

variable {Item Key Group : Type} (grouping : Grouping Item Key Group)

/-- The group that these members make, if there are any. -/
def ofMembers? (key : Key) : List Item → Option Group
  | [] => none
  | first :: rest => some (rest.foldl grouping.add (grouping.start key first))

theorem ofMembers?_concat (key : Key) (items : List Item) (last : Item) :
    grouping.ofMembers? key (items ++ [last]) =
      some (match grouping.ofMembers? key items with
        | some group => grouping.add group last
        | none => grouping.start key last) := by
  cases items with
  | nil => rfl
  | cons first rest => simp [ofMembers?, List.foldl_append]

theorem keyOf_foldl_add (group : Group) (items : List Item) :
    grouping.keyOf (items.foldl grouping.add group) = grouping.keyOf group := by
  induction items generalizing group with
  | nil => rfl
  | cons first rest ih => exact (ih (grouping.add group first)).trans (grouping.keyOf_add _ _)

variable [DecidableEq Key]

/-- Adds an item to the group with its key, or starts one behind the others. -/
def insert (key : Key) (item : Item) : List Group → List Group
  | [] => [grouping.start key item]
  | group :: rest =>
    if grouping.keyOf group = key then grouping.add group item :: rest
    else group :: insert key item rest

/-- Puts the items into groups one after another. -/
def ofItems (items : List Item) : List Group :=
  items.foldl
    (fun groups item =>
      match grouping.key? item with
      | some key => grouping.insert key item groups
      | none => groups)
    []

/-- The members of a group are the items with its key. -/
def members (items : List Item) (key : Key) : List Item :=
  items.filter (grouping.key? · = some key)

theorem ofItems_concat (items : List Item) (last : Item) :
    grouping.ofItems (items ++ [last]) =
      match grouping.key? last with
      | some key => grouping.insert key last (grouping.ofItems items)
      | none => grouping.ofItems items := by
  unfold ofItems
  cases keyed : grouping.key? last <;>
    simp only [List.foldl_append, List.foldl_cons, List.foldl_nil, keyed]

/-- An item goes to the group with its key and leaves all others as they are. -/
theorem insert_filterMap {key : Key} {item : Item} {keys : List Key} (distinct : keys.Nodup)
    {group? : Key → Option Group}
    (named : ∀ own ∈ keys, ∃ group, group? own = some group ∧ grouping.keyOf group = own) :
    grouping.insert key item (keys.filterMap group?) =
      if key ∈ keys then
        keys.filterMap fun own =>
          if own = key then (group? own).map (grouping.add · item) else group? own
      else keys.filterMap group? ++ [grouping.start key item] := by
  induction keys with
  | nil => rfl
  | cons first rest ih =>
    obtain ⟨fresh, others⟩ := List.nodup_cons.mp distinct
    obtain ⟨group, held, same⟩ := named first List.mem_cons_self
    have later := ih others fun own member => named own (List.mem_cons_of_mem first member)
    rw [List.filterMap_cons_some held, insert]
    by_cases own : first = key
    · -- No later key is the same, so the groups behind this one stay as they are.
      have spared : ∀ other ∈ rest, (if other = key then
          (group? other).map (grouping.add · item) else group? other) = group? other := by
        intro other member
        rw [if_neg]
        intro equal
        rw [equal, ← own] at member
        exact fresh member
      rw [if_pos (same.trans own), if_pos (own ▸ List.mem_cons_self), List.filterMap_cons,
        if_pos own, held, List.filterMap_congr spared]
      rfl
    · have unmatched : grouping.keyOf group ≠ key := fun matched => own (same.symm.trans matched)
      rw [if_neg unmatched, later]
      by_cases among : key ∈ rest
      · rw [if_pos among, if_pos (List.mem_cons_of_mem first among), List.filterMap_cons,
          if_neg own, held]
      · have absent : key ∉ first :: rest := by simpa [Ne.symm own] using among
        rw [if_neg among, if_neg absent, List.cons_append]

variable [BEq Key] [LawfulBEq Key]

theorem exists_ofMembers? {items : List Item} {key : Key}
    (member : key ∈ (items.filterMap grouping.key?).eraseDups) :
    ∃ group, grouping.ofMembers? key (grouping.members items key) = some group ∧
      grouping.keyOf group = key := by
  obtain ⟨item, listed, keyed⟩ := List.mem_filterMap.mp (List.mem_eraseDups.mp member)
  have inside : item ∈ grouping.members items key := by simp [members, listed, keyed]
  cases found : grouping.members items key with
  | nil =>
    rw [found] at inside
    cases inside
  | cons first rest =>
    have present : first ∈ grouping.members items key := by simp [found]
    have belongs : grouping.key? first = some key := by
      simpa [members] using (List.mem_filter.mp present).2
    exact ⟨_, rfl, (grouping.keyOf_foldl_add _ _).trans (grouping.keyOf_start belongs)⟩

/-- The groups in closed form. -/
theorem ofItems_eq (items : List Item) :
    grouping.ofItems items = (items.filterMap grouping.key?).eraseDups.filterMap fun key =>
      grouping.ofMembers? key (grouping.members items key) := by
  induction items using List.reverseRecOn with
  | nil => rfl
  | append_singleton rest last ih =>
    rw [ofItems_concat, ih, List.filterMap_append]
    cases keyed : grouping.key? last with
    | none => simp [members, List.filter_append, keyed]
    | some key =>
      have named := fun own (member : own ∈ (rest.filterMap grouping.key?).eraseDups) =>
        grouping.exists_ofMembers? member
      have grown : ∀ own, grouping.members (rest ++ [last]) own =
          if own = key then grouping.members rest own ++ [last]
          else grouping.members rest own := by
        intro own
        by_cases same : own = key
        · simp [members, List.filter_append, keyed, same]
        · simp [members, List.filter_append, keyed, same, Ne.symm same]
      dsimp only
      -- A key that was seen leads to its group, a new key to a new group at the end.
      rw [grouping.insert_filterMap (nodup_eraseDups _) named, List.filterMap_cons_some keyed,
        List.filterMap_nil, eraseDups_concat]
      simp only [List.mem_eraseDups]
      split
      next seen =>
        refine List.filterMap_congr fun own member => ?_
        rw [grown]
        by_cases same : own = key
        · obtain ⟨group, made, _⟩ := named own member
          rw [if_pos same, if_pos same, ofMembers?_concat, made]
          rfl
        · rw [if_neg same, if_neg same]
      next fresh =>
        -- The last item is the only member of its group.
        have empty : grouping.members rest key = [] := by
          refine List.filter_eq_nil_iff.mpr fun item member own => fresh ?_
          exact List.mem_filterMap.mpr ⟨item, member, by simpa using own⟩
        rw [List.filterMap_append, List.filterMap_cons, grown, if_pos rfl, empty]
        congr 1
        refine List.filterMap_congr fun own member => ?_
        rw [grown, if_neg]
        exact fun same => fresh (same ▸ List.mem_eraseDups.mp member)

end Grouping

end Portability
