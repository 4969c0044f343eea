import Mathlib.Data.Finset.Dedup
import Portability.Proofs.Check.Levels
import Portability.Proofs.Check.Telling

/-!
# The order of declarations

A group takes most of its fields from its first member. For properties it does not matter which one
that is: members of one group are spellings of one property, with one table between them. So a check
of properties says the same of a block in any order, up to the order of its issues and of the
spellings in each.
-/
namespace Portability

/-- An issue without the order of its spellings. -/
def Issue.unordered (issue : Issue) : Issue × Finset String :=
  ({ issue with aliases := [] }, issue.aliases.toFinset)

namespace Mention

variable {catalog : Catalog} {targets : List Target} {options : CheckOptions}

/-- What is said of one property under several spellings does not depend on their order. -/
theorem unordered_mergedIssue? {key : String × Bool} {members others : List Mention}
    (level : key.2 = false) (permuted : members.Perm others)
    (tabled : ∀ first ∈ members, ∀ second ∈ members,
      catalog.root.tableAt? first.path = catalog.root.tableAt? second.path) :
    (mergedIssue? catalog targets options key members).map Issue.unordered =
      (mergedIssue? catalog targets options key others).map Issue.unordered := by
  cases members with
  | nil => rw [permuted.nil_eq]
  | cons first rest =>
    cases others with
    | nil => cases permuted.eq_nil
    | cons second more =>
      have same := tabled first List.mem_cons_self second
        (permuted.mem_iff.mpr List.mem_cons_self)
      have spelled : ((first :: rest).map (·.term)).eraseDups.toFinset =
          ((second :: more).map (·.term)).eraseDups.toFinset :=
        List.toFinset_eq_of_perm _ _ (perm_eraseDups (permuted.map _))
      have together : (fun target => (first :: rest).all (·.fails catalog options target)) =
          fun target => (second :: more).all (·.fails catalog options target) :=
        funext fun target => permuted.all_eq
      unfold mergedIssue? Issue.unordered issue
      simp only [List.head?_cons, Option.map_some, level, spelled, together, same]
      cases catalog.root.tableAt? second.path <;> rfl

/-- The report of properties in any order, if the members of each group have one table. -/
theorem report_perm {mentions others : List Mention} (permuted : mentions.Perm others)
    (levels : ∀ mention ∈ mentions, mention.isValue = false)
    (tabled : ∀ key, ∀ first ∈ mentions, ∀ second ∈ mentions,
      first.group? catalog = some key → second.group? catalog = some key →
      catalog.root.tableAt? first.path = catalog.root.tableAt? second.path) :
    ((report catalog targets options mentions).map Issue.unordered).Perm
      ((report catalog targets options others).map Issue.unordered) := by
  -- Whether an issue is reported does not hang on its spellings, so the filter stays outside.
  have reportable : Issue.isReportable = (fun seen => seen.1.isReportable) ∘ Issue.unordered := rfl
  unfold report
  rw [reportable, ← List.filter_map, ← List.filter_map, List.map_append, List.map_append,
    List.map_filterMap, List.map_filterMap]
  refine List.Perm.filter _ (List.Perm.append (((permuted.filter _).map _).map _) ?_)
  -- The keys change their order; the issue of each key is the same for both orders.
  have keys := perm_eraseDups (permuted.filterMap (·.group? catalog))
  refine List.Perm.trans (List.Perm.of_eq (List.filterMap_congr fun key present => ?_))
    (keys.filterMap _)
  obtain ⟨mention, member, keyed⟩ := List.mem_filterMap.mp (List.mem_eraseDups.mp present)
  have level : key.2 = false :=
    (group?_eq_some_iff.mp keyed).2.symm.trans (levels mention member)
  refine unordered_mergedIssue? level (permuted.filter _) fun first left second right => ?_
  obtain ⟨among, grouped⟩ := List.mem_filter.mp left
  obtain ⟨among', grouped'⟩ := List.mem_filter.mp right
  exact tabled key first among second among' (by simpa using grouped) (by simpa using grouped')

/-- Properties of one group have one table. -/
theorem tableAt?_eq_of_group?_eq {json : Json} (built : Catalog.ofJson json = .ok catalog)
    {first second : String} {key : String × Bool}
    (left : (ofProperty first).group? catalog = some key)
    (right : (ofProperty second).group? catalog = some key) :
    catalog.root.tableAt? (ofProperty first).path =
      catalog.root.tableAt? (ofProperty second).path := by
  have same := Node.at?_eq_of_place?_eq (Catalog.root_wellFormed built)
    (place?_eq_of_group?_eq built left right)
  rw [Node.tableAt?, Node.tableAt?, same]

end Mention

/--
Without values a check does not depend on the order of declarations: a block in another order has
the same issues, in another order and with the spellings of each in another order.
-/
theorem cssIssues_perm {json : Json} {catalog : Catalog} (built : Catalog.ofJson json = .ok catalog)
    {declarations others : List Declaration} (permuted : declarations.Perm others)
    (targets : List Target) {options : CheckOptions} (unasked : options.values = false) :
    ((cssIssues catalog declarations targets options).map Issue.unordered).Perm
      ((cssIssues catalog others targets options).map Issue.unordered) := by
  have listed := Catalog.isSome_tableAt?_of_canonicalName? built
  rw [Mention.cssIssues_eq_of_listed listed, Mention.cssIssues_eq_of_listed listed,
    Mention.flatMap_ofDeclaration_of_unasked unasked,
    Mention.flatMap_ofDeclaration_of_unasked unasked]
  refine Mention.report_perm ((permuted.map _).map _) ?_ ?_
  · intro mention member
    obtain ⟨_, _, rfl⟩ := List.mem_map.mp member
    rfl
  · intro key first left second right
    obtain ⟨_, _, rfl⟩ := List.mem_map.mp left
    obtain ⟨_, _, rfl⟩ := List.mem_map.mp right
    exact Mention.tableAt?_eq_of_group?_eq built

namespace Catalog

theorem cssIssues_perm_sample :
    ofJson sample = .ok sampleCatalog ∧ sampleBlock.Perm sampleBlock.reverse ∧
    ((cssIssues sampleCatalog sampleBlock sampleTargets {}).map Issue.unordered).Perm
      ((cssIssues sampleCatalog sampleBlock.reverse sampleTargets {}).map Issue.unordered) :=
  ⟨ofJson_sample, (List.reverse_perm sampleBlock).symm,
    cssIssues_perm ofJson_sample (List.reverse_perm sampleBlock).symm sampleTargets rfl⟩

/-- The two orders are not told alike: each issue and each spelling stands where it first occurs. -/
example :
    (cssIssues sampleCatalog sampleBlock.reverse sampleTargets {}).map (·.subject) =
      ["display", "color", "-webkit-user-select, -moz-user-select aliases"] := by
  decide +kernel

end Catalog

end Portability
