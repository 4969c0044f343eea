import Mathlib.Data.List.Forall2
import Portability.Check.Css
import Portability.Proofs.Grouping

/-!
# Groups of spellings

Summaries are grouped by the term that they spell, properties and values apart. So there is one group
for each distinct key in the order of first occurrence, made of all summaries with that key. What the
members make of their group is said by inductions from the end of the list, where the summary that
came last stands.
-/
namespace Portability

/-- Two choices from one list have related results if they have for each item. -/
theorem forall₂_filterMap {α β γ : Type} {related : β → γ → Prop} {pick : α → Option β}
    {other : α → Option γ} (each : ∀ item, Option.Rel related (pick item) (other item))
    (items : List α) : List.Forall₂ related (items.filterMap pick) (items.filterMap other) := by
  have itself : List.Forall₂ Eq items items := List.forall₂_same.mpr fun _ _ => rfl
  refine List.rel_filterMap ?_ itself
  rintro item _ rfl
  exact each item

/-- The group of a summary: the term that it spells, and whether that is a value. -/
def Summary.group? (summary : Summary) : Option (String × Bool) :=
  summary.aliasOf.map (·, summary.isValue)

namespace AliasGroup

def key (group : AliasGroup) : String × Bool := (group.canonical, group.isValue)

/-- Summaries are put into groups by the terms that they spell. -/
def grouping : Grouping Summary (String × Bool) AliasGroup where
  key? := Summary.group?
  start key := start key.1
  add := add
  keyOf := key
  keyOf_start {key summary} keyed := by
    obtain ⟨canonical, aliased, rfl⟩ := Option.map_eq_some_iff.mp keyed
    rfl
  keyOf_add _ _ := rfl

theorem insert_eq (canonical : String) (summary : Summary) (groups : List AliasGroup) :
    insert canonical summary groups =
      grouping.insert (canonical, summary.isValue) summary groups := by
  induction groups with
  | nil => rfl
  | cons group rest ih =>
    have same : group.canonical = canonical ∧ group.isValue = summary.isValue ↔
        grouping.keyOf group = (canonical, summary.isValue) := by
      rw [← Prod.mk.injEq]
      rfl
    rw [insert, Grouping.insert, ih]
    exact if_congr same rfl rfl

theorem ofSummaries_eq_ofItems (summaries : List Summary) :
    ofSummaries summaries = grouping.ofItems summaries := by
  unfold ofSummaries Grouping.ofItems
  congr 1
  funext groups summary
  simp only [insert_eq, grouping, Summary.group?]
  cases summary.aliasOf <;> rfl

/-- The group that these members make, if there are any. -/
def ofMembers? (key : String × Bool) : List Summary → Option AliasGroup
  | [] => none
  | first :: rest => some (rest.foldl add (start key.1 first))

/-- The members of a group are the summaries with its key. -/
def members (summaries : List Summary) (key : String × Bool) : List Summary :=
  summaries.filter (·.group? = some key)

/-- The groups in closed form. -/
theorem ofSummaries_eq (summaries : List Summary) :
    ofSummaries summaries = (summaries.filterMap Summary.group?).eraseDups.filterMap fun key =>
      ofMembers? key (members summaries key) := by
  rw [ofSummaries_eq_ofItems, Grouping.ofItems_eq]
  refine List.filterMap_congr fun key _ => ?_
  change grouping.ofMembers? key (members summaries key) = _
  cases members summaries key <;> rfl

/-! What members make of a group: the first gives all fields but two, which all share. -/

theorem aliases_foldl_add (canonical : String) (first : Summary) (rest : List Summary) :
    (rest.foldl add (start canonical first)).issue.aliases =
      ((first :: rest).map Summary.term).eraseDups := by
  induction rest using List.reverseRecOn with
  | nil =>
    unfold start
    cases first.isValue <;> rfl
  | append_singleton others last ih =>
    rw [List.foldl_append, List.foldl_cons, List.foldl_nil, ← List.cons_append, List.map_append,
      List.map_singleton, eraseDups_concat]
    simp only [add, ih, List.contains_iff_mem, List.mem_eraseDups]

theorem unsupported_start (canonical : String) (summary : Summary) :
    (start canonical summary).issue.unsupported = summary.issue.unsupported := by
  unfold start
  split <;> rfl

/-- A target stays only if every later member fails for the same release. -/
theorem unsupported_foldl_add (group : AliasGroup) (rest : List Summary) :
    (rest.foldl add group).issue.unsupported =
      group.issue.unsupported.filter fun target =>
        rest.all fun summary => summary.issue.unsupported.any (·.isSameRelease target) := by
  induction rest using List.reverseRecOn with
  | nil => simp
  | append_singleton others last ih =>
    rw [List.foldl_append, List.foldl_cons, List.foldl_nil]
    simp only [add, ih, List.filter_filter, List.all_append, List.all_cons, List.all_nil,
      Bool.and_true]
    refine List.filter_congr fun target _ => Bool.and_comm _ _

/-- All other fields are those of the first member. -/
theorem issue_foldl_add (group : AliasGroup) (rest : List Summary) :
    (rest.foldl add group).issue =
      { group.issue with
        aliases := (rest.foldl add group).issue.aliases
        unsupported := (rest.foldl add group).issue.unsupported } := by
  induction rest using List.reverseRecOn with
  | nil => rfl
  | append_singleton others last ih =>
    rw [List.foldl_append, List.foldl_cons, List.foldl_nil, add, ih]

end AliasGroup

/-- The issues of any summaries in closed form. -/
theorem issuesOfSummaries_eq (summaries : List Summary) :
    issuesOfSummaries summaries =
      ((summaries.filter (·.group?.isNone)).map (·.issue) ++
        (summaries.filterMap Summary.group?).eraseDups.filterMap fun key =>
          (AliasGroup.ofMembers? key (AliasGroup.members summaries key)).map (·.issue)).filter
        Issue.isReportable := by
  have single : (fun summary : Summary => summary.aliasOf.isNone) =
      fun summary => summary.group?.isNone := by
    funext summary
    simp [Summary.group?]
  unfold issuesOfSummaries
  rw [AliasGroup.ofSummaries_eq, List.map_filterMap, single]

/-- An issue lists no target that some summary behind it does not. -/
theorem exists_unsupported_subset {summaries : List Summary} {issue : Issue}
    (reported : issue ∈ issuesOfSummaries summaries) :
    ∃ summary ∈ summaries, issue.unsupported ⊆ summary.issue.unsupported := by
  rw [issuesOfSummaries_eq] at reported
  rcases List.mem_append.mp (List.mem_filter.mp reported).1 with single | merged
  · obtain ⟨summary, listed, rfl⟩ := List.mem_map.mp single
    exact ⟨summary, (List.mem_filter.mp listed).1, List.Subset.refl _⟩
  · obtain ⟨key, _, made⟩ := List.mem_filterMap.mp merged
    cases found : AliasGroup.members summaries key with
    | nil => simp [found, AliasGroup.ofMembers?] at made
    | cons first rest =>
      -- Merging only takes targets away from those of the first member.
      have inside : first ∈ AliasGroup.members summaries key := by simp [found]
      rw [found, AliasGroup.ofMembers?, Option.map_some] at made
      refine ⟨first, (List.mem_filter.mp inside).1, ?_⟩
      rw [← Option.some.inj made, AliasGroup.unsupported_foldl_add, AliasGroup.unsupported_start]
      exact List.filter_subset_self _

end Portability
