import Portability.Proofs.Catalog.Written
import Portability.Proofs.Check.Spellings
import Portability.Proofs.Check.Verdict
import Portability.Proofs.Text.LowerCase

/-!
# The letter case of property names

A property is found in any letter case, and so is the term of which it is a spelling. The records of
its table are chosen by the vendor prefix of the name as it is authored, and there letter case
counts. So a check says the same of a block in another letter case as long as the vendor prefixes
stay as they are, and for every two names with different prefixes there are data that tell them
apart.
-/
namespace Portability

/-- What an issue says, apart from the names of what it says this of. -/
def Issue.outcome (issue : Issue) : IssueKind × Bool × Bool × Bool × List Target :=
  (issue.kind, issue.invalid, issue.deprecated, issue.experimental, issue.unsupported)

/-- Whether a declaration is another one with its name recased in some way. -/
def Declaration.Recased (recased : String → String → Prop) (declaration other : Declaration) :
    Prop :=
  recased declaration.name other.name ∧ other.value = declaration.value

/-- A spelling counts for support by its vendor prefix alone. -/
theorem supportState_congr (table : Option SupportTable) (browser version : String)
    {spelling other : String} (same : vendorPrefix? spelling = vendorPrefix? other) :
    supportState table browser version spelling = supportState table browser version other := by
  unfold supportState
  rw [same]

namespace Mention

/-- Whether two mentions are of one term, and in spellings for the same records. -/
structure Alike (catalog : Catalog) (mention other : Mention) : Prop where
  isValue : mention.isValue = other.isValue
  table : catalog.root.tableAt? mention.path = catalog.root.tableAt? other.path
  canonical : catalog.root.canonicalName? mention.path = catalog.root.canonicalName? other.path
  vendor : vendorPrefix? (mention.path.getLast?.getD "") =
    vendorPrefix? (other.path.getLast?.getD "")

variable {catalog : Catalog} {targets : List Target} {options : CheckOptions}

namespace Alike

variable {mention other : Mention}

theorem group? (alike : Alike catalog mention other) :
    mention.group? catalog = other.group? catalog := by
  unfold Mention.group?
  rw [alike.canonical, alike.isValue]

theorem fails (alike : Alike catalog mention other) :
    mention.fails catalog options = other.fails catalog options := by
  funext target
  unfold Mention.fails
  rw [alike.table, supportState_congr _ _ _ alike.vendor]

theorem outcome_issue (alike : Alike catalog mention other) :
    (mention.issue catalog targets options).outcome =
      (other.issue catalog targets options).outcome := by
  unfold issue
  rw [alike.table, alike.isValue, alike.fails]
  cases catalog.root.tableAt? other.path <;> rfl

end Alike

/-! Two lists of mentions that are alike one by one have reports that are, by what they say. -/

theorem all_fails_eq {members others : List Mention}
    (alike : List.Forall₂ (Alike catalog) members others) (target : Target) :
    members.all (·.fails catalog options target) =
      others.all (·.fails catalog options target) := by
  induction alike with
  | nil => rfl
  | cons first _ ih => rw [List.all_cons, List.all_cons, first.fails, ih]

theorem outcome_mergedIssue? (key : String × Bool) {members others : List Mention}
    (alike : List.Forall₂ (Alike catalog) members others) :
    (mergedIssue? catalog targets options key members).map Issue.outcome =
      (mergedIssue? catalog targets options key others).map Issue.outcome := by
  have together : (fun target => members.all (·.fails catalog options target)) =
      fun target => others.all (·.fails catalog options target) :=
    funext (all_fails_eq alike)
  cases alike with
  | nil => rfl
  | @cons first second _ _ same _ =>
    have own : (first.issue catalog targets options).outcome =
        (second.issue catalog targets options).outcome := same.outcome_issue
    simp only [Issue.outcome, Prod.mk.injEq] at own
    simp only [mergedIssue?, List.head?_cons, Option.map_some, Issue.outcome, together, own]

theorem filter_alike {mentions others : List Mention}
    (alike : List.Forall₂ (Alike catalog) mentions others)
    (keep : Option (String × Bool) → Bool) :
    List.Forall₂ (Alike catalog) (mentions.filter fun mention => keep (mention.group? catalog))
      (others.filter fun mention => keep (mention.group? catalog)) := by
  refine List.rel_filter (fun mention other same => ?_) alike
  dsimp only
  rw [same.group?]

theorem filterMap_group?_eq {mentions others : List Mention}
    (alike : List.Forall₂ (Alike catalog) mentions others) :
    mentions.filterMap (·.group? catalog) = others.filterMap (·.group? catalog) := by
  induction alike with
  | nil => rfl
  | cons first _ ih => rw [List.filterMap_cons, List.filterMap_cons, first.group?, ih]

theorem map_outcome_issue {mentions others : List Mention}
    (alike : List.Forall₂ (Alike catalog) mentions others) :
    (mentions.map (issue catalog targets options)).map Issue.outcome =
      (others.map (issue catalog targets options)).map Issue.outcome := by
  induction alike with
  | nil => rfl
  | cons first _ ih => simp only [List.map_cons, first.outcome_issue, ih]

theorem outcome_report {mentions others : List Mention}
    (alike : List.Forall₂ (Alike catalog) mentions others) :
    (report catalog targets options mentions).map Issue.outcome =
      (report catalog targets options others).map Issue.outcome := by
  -- Whether an issue is reported can be told from what it says.
  have reportable : Issue.isReportable =
      (fun (_, invalid, deprecated, experimental, unsupported) =>
        invalid || deprecated || experimental || !unsupported.isEmpty) ∘ Issue.outcome := rfl
  unfold report
  rw [reportable, ← List.filter_map, ← List.filter_map, List.map_append, List.map_append,
    List.map_filterMap, List.map_filterMap, filterMap_group?_eq alike,
    map_outcome_issue (filter_alike alike (·.isNone))]
  congr 2
  refine List.filterMap_congr fun key _ => ?_
  exact outcome_mergedIssue? key (filter_alike alike (· = some key))

/-! Declarations that differ in nothing but the case of their names. -/

variable {name other : String}

theorem at?_recased (catalog : Catalog) (same : Text.lowerCase name = Text.lowerCase other) :
    catalog.root.at? (Catalog.properties ++ [name]) =
      catalog.root.at? (Catalog.properties ++ [other]) := by
  apply Node.at?_congr
  rw [List.map_append, List.map_append, List.map_singleton, List.map_singleton, same]

theorem ofProperty_alike (catalog : Catalog) (same : Text.lowerCase name = Text.lowerCase other)
    (vendor : vendorPrefix? name = vendorPrefix? other) :
    Alike catalog (ofProperty name) (ofProperty other) where
  isValue := rfl
  table := by
    unfold Node.tableAt? ofProperty
    rw [at?_recased catalog same]
  canonical := Node.canonicalName?_congr catalog.root Catalog.properties same
  vendor := by
    unfold ofProperty
    rw [List.getLast?_concat, List.getLast?_concat]
    exact vendor

/-- Below a property the path ends with the key of the component, whatever the property's case. -/
theorem listed_alike (term : String) {rest : List String} (inhabited : rest ≠ [])
    (same : catalog.root.at? (Catalog.properties ++ [name]) =
      catalog.root.at? (Catalog.properties ++ [other])) :
    Alike catalog ⟨name, term, Catalog.properties ++ [name] ++ rest, true⟩
      ⟨other, term, Catalog.properties ++ [other] ++ rest, true⟩ where
  isValue := rfl
  table := by rw [Node.tableAt?_append, Node.tableAt?_append, same]
  canonical := by
    rw [Node.canonicalName?_append _ _ inhabited, Node.canonicalName?_append _ _ inhabited, same]
  vendor := by
    rw [List.getLast?_append_of_ne_nil _ inhabited, List.getLast?_append_of_ne_nil _ inhabited]

theorem ofDeclaration_alike {declaration restyled : Declaration}
    (same : Text.lowerCase declaration.name = Text.lowerCase restyled.name)
    (vendor : vendorPrefix? declaration.name = vendorPrefix? restyled.name)
    (value : restyled.value = declaration.value) :
    List.Forall₂ (Alike catalog) (ofDeclaration catalog options declaration)
      (ofDeclaration catalog options restyled) := by
  have arrived := at?_recased catalog same
  have tabled : catalog.hasTable (Catalog.properties ++ [declaration.name]) =
      catalog.hasTable (Catalog.properties ++ [restyled.name]) := by
    unfold Catalog.hasTable Node.tableAt?
    rw [arrived]
  unfold ofDeclaration
  dsimp only
  rw [tabled, value]
  refine .cons (ofProperty_alike catalog same vendor) ?_
  split
  · refine forall₂_filterMap (fun component => ?_) _
    -- The two verdicts list the component in one place, or below the property's two spellings.
    have follows := Verdict.of_follows arrived component
    generalize Verdict.of catalog declaration.name component = verdict at follows ⊢
    generalize Verdict.of catalog restyled.name component = restyledVerdict at follows ⊢
    cases follows with
    | same =>
      cases verdict with
      | safe | unverifiable => exact .none
      | listed term path => exact .some ⟨rfl, rfl, rfl, rfl⟩
    | below inhabited => exact .some (listed_alike _ inhabited arrived)
  · exact .nil

/-- Blocks are alike if their declarations are. -/
theorem flatMap_ofDeclaration_alike {recased : String → String → Prop}
    {declarations others : List Declaration}
    (restyled : List.Forall₂ (Declaration.Recased recased) declarations others)
    (same : ∀ name other, recased name other → Text.lowerCase name = Text.lowerCase other)
    (vendor : ∀ name other, recased name other → vendorPrefix? name = vendorPrefix? other) :
    List.Forall₂ (Alike catalog) (declarations.flatMap (ofDeclaration catalog options))
      (others.flatMap (ofDeclaration catalog options)) := by
  refine List.rel_flatMap restyled ?_
  rintro declaration other ⟨named, value⟩
  exact ofDeclaration_alike (same _ _ named) (vendor _ _ named) value

end Mention

/-! Data that tell two vendor prefixes apart. -/

namespace Catalog

/-- A table of which only one browser has records, and behind a prefix only. -/
def prefixedTable (vendor : String) : SupportTable :=
  { support := [("firefox", [{ added := .always, vendor := some vendor }])] }

/-- That table as it is written for a term. -/
def prefixedTerm (vendor : String) : Json :=
  .object [("__compat", .object [("support", .object [("firefox", .object [
    ("version_added", .boolean true), ("prefix", .text vendor)])])])]

/-- A snapshot with that table for its one property. -/
def prefixedOnly (name vendor : String) : Json :=
  .object [("css", .object [("properties", .object [(name, prefixedTerm vendor)])])]

theorem isTerm_prefixedTerm (vendor : String) : Node.IsTerm (prefixedTerm vendor) := by
  refine Node.isTerm_object_iff.mpr ?_
  intro field member demand demanded
  cases List.mem_singleton.mp member
  cases demanded
  rfl

theorem isTerm_singleton {name : String} {json : Json} (free : Node.isReserved name = false)
    (inner : Node.IsTerm json) : Node.IsTerm (.object [(name, json)]) := by
  refine Node.isTerm_object_iff.mpr ?_
  intro field member demand demanded
  cases List.mem_singleton.mp member
  rw [Node.demand?_eq_term_iff.mpr free] at demanded
  cases demanded
  exact inner

theorem exists_ofJson_prefixedOnly {name : String} (vendor : String) (free : Node.isReserved name = false) :
    ∃ catalog, ofJson (prefixedOnly name vendor) = .ok catalog := by
  have term : Node.IsTerm (.object [("properties", .object [(name, prefixedTerm vendor)])]) :=
    isTerm_singleton rfl (isTerm_singleton free (isTerm_prefixedTerm vendor))
  refine exists_catalog_iff.mpr ?_
  have sound := (Node.faultsAt_parts_eq_nil_iff "css" [] _).mpr term
  simpa [faults, browserFaults, namespaceFaults, namespaces, Keyed.get?, Node.faults] using sound

theorem tableAt?_prefixedOnly {name vendor : String} {catalog : Catalog}
    (free : Node.isReserved name = false)
    (built : ofJson (prefixedOnly name vendor) = .ok catalog) :
    catalog.root.tableAt? (properties ++ [name]) = some (prefixedTable vendor) := by
  have written : Node.Leads (prefixedOnly name vendor) ["css", "properties", name]
      (prefixedTerm vendor) :=
    .of_nodup (List.nodup_singleton _) (.head _) rfl <|
      .of_nodup (List.nodup_singleton _) (.head _) rfl <|
      .of_nodup (List.nodup_singleton _) (.head _) free (.here _)
  obtain ⟨node, arrived, _, source⟩ := exists_node_of_leads built (by decide) written
  have table : node.table = some (.direct (prefixedTable vendor)) := by
    generalize node.table = held at source
    cases source with
    | direct has decoded =>
      cases has
      cases decoded
      rfl
    | byContext bare | none bare => cases bare
  change catalog.root.at? (properties ++ [name]) = some node at arrived
  rw [Node.tableAt?, arrived, Option.bind_some, Node.usualTable?, table]
  rfl

theorem isReserved_of_vendorPrefix? {name vendor : String}
    (own : vendorPrefix? name = some vendor) : Node.isReserved name = false := by
  obtain ⟨⟨word, _, _, shape⟩, rest, begun⟩ := vendorPrefix?_eq_some_iff.mp own
  rw [shape] at begun
  rw [Node.isReserved, ← begun]
  rfl

/-- The record counts for a spelling just if its prefix is the vendor prefix of the spelling. -/
theorem supportState_prefixedTable (vendor version spelling : String) :
    supportState (some (prefixedTable vendor)) "firefox" version spelling =
      if vendorPrefix? spelling = some vendor then .supported else .unsupported := by
  by_cases same : vendorPrefix? spelling = some vendor
  · simp [supportState, prefixedTable, SupportTable.records?, Keyed.get?, SupportRecord.covers, same]
  · simp [supportState, prefixedTable, SupportTable.records?, Keyed.get?, SupportRecord.covers,
      same, Ne.symm same]

/-- The property is told of under one of two names just if that one has another vendor prefix. -/
theorem told_apart {name other vendor : String}
    (same : Text.lowerCase name = Text.lowerCase other) (own : vendorPrefix? name = some vendor)
    (different : vendorPrefix? other ≠ some vendor) :
    ∃ catalog, ofJson (prefixedOnly name vendor) = .ok catalog ∧
      (∀ issue ∈ cssIssues catalog [{ name }] [firefox60] {}, firefox60 ∉ issue.unsupported) ∧
      ∃ issue ∈ cssIssues catalog [{ name := other }] [firefox60] {},
        firefox60 ∈ issue.unsupported := by
  have free := isReserved_of_vendorPrefix? own
  obtain ⟨catalog, built⟩ := exists_ofJson_prefixedOnly vendor free
  have held := tableAt?_prefixedOnly free built
  refine ⟨catalog, built, ?_, ?_⟩
  · -- For this name the one record counts, and it covers every version.
    intro issue reported listed
    obtain ⟨table, looked, failed⟩ := fails_of_mem_unsupported reported listed
    rw [held] at looked
    cases looked
    rw [firefox60, supportState_prefixedTable, if_pos own] at failed
    cases failed
  · -- The other name leads to the same table, in which no record is for it.
    have arrived := Mention.at?_recased catalog same
    have looked : catalog.root.tableAt? (properties ++ [other]) = some (prefixedTable vendor) := by
      rw [Node.tableAt?, ← arrived]
      exact held
    have failed : (Mention.ofProperty other).fails catalog {} firefox60 = true := by
      rw [Mention.fails_ofProperty, looked, firefox60, supportState_prefixedTable,
        if_neg different]
      rfl
    have flagged : firefox60 ∈
        ((Mention.ofProperty other).issue catalog [firefox60] {}).unsupported := by
      refine Mention.mem_unsupported_issue.mpr ⟨?_, List.mem_singleton_self _, failed⟩
      exact Option.isSome_iff_exists.mpr ⟨_, looked⟩
    exact exists_issue_of_flagged built flagged

end Catalog

/-- Reports that say the same list the same targets. -/
theorem exists_listed_of_outcome_eq {reported others : List Issue} {target : Target}
    (same : reported.map Issue.outcome = others.map Issue.outcome)
    (told : ∃ issue ∈ others, target ∈ issue.unsupported) :
    ∃ issue ∈ reported, target ∈ issue.unsupported := by
  obtain ⟨issue, member, listed⟩ := told
  have said : issue.outcome ∈ reported.map Issue.outcome := same ▸ List.mem_map_of_mem member
  obtain ⟨twin, among, equal⟩ := List.mem_map.mp said
  simp only [Issue.outcome, Prod.mk.injEq] at equal
  exact ⟨twin, among, equal.2.2.2.2 ▸ listed⟩

/--
Ways to change the letter case of property names make no difference to any check of any block just
if they leave vendor prefixes as they are: then the issues are the same one by one, apart from the
names in them.
-/
theorem cssIssues_recased_iff {recased : String → String → Prop}
    (caseOnly : ∀ name other, recased name other → Text.sameIgnoringCase name other = true) :
    (∀ (json : Json) (catalog : Catalog), Catalog.ofJson json = .ok catalog →
      ∀ declarations others : List Declaration,
        List.Forall₂ (Declaration.Recased recased) declarations others →
        ∀ (targets : List Target) (options : CheckOptions),
          (cssIssues catalog declarations targets options).map Issue.outcome =
            (cssIssues catalog others targets options).map Issue.outcome) ↔
      ∀ name other, recased name other → vendorPrefix? name = vendorPrefix? other := by
  have keyed : ∀ name other, recased name other → Text.lowerCase name = Text.lowerCase other :=
    fun name other changed => Text.lowerCase_eq_of_sameIgnoringCase (caseOnly name other changed)
  constructor
  · intro every name other changed
    by_contra different
    have restyled : List.Forall₂ (Declaration.Recased recased) [{ name }] [{ name := other }] :=
      .cons ⟨changed, rfl⟩ .nil
    -- One of the names has a vendor prefix, and data for that prefix tell the names apart.
    cases own : vendorPrefix? name with
    | some vendor =>
      rw [own] at different
      obtain ⟨catalog, built, silent, told⟩ :=
        Catalog.told_apart (keyed name other changed) own (Ne.symm different)
      have same := every _ catalog built _ _ restyled [Catalog.firefox60] {}
      obtain ⟨issue, reported, listed⟩ := exists_listed_of_outcome_eq same told
      exact silent issue reported listed
    | none =>
      rw [own] at different
      obtain ⟨vendor, held⟩ := Option.ne_none_iff_exists'.mp (Ne.symm different)
      obtain ⟨catalog, built, silent, told⟩ :=
        Catalog.told_apart (keyed name other changed).symm held (by simp [own])
      have same := every _ catalog built _ _ restyled [Catalog.firefox60] {}
      obtain ⟨issue, reported, listed⟩ := exists_listed_of_outcome_eq same.symm told
      exact silent issue reported listed
  · intro vendor json catalog built declarations others restyled targets options
    have listed := Catalog.isSome_tableAt?_of_canonicalName? built
    rw [Mention.cssIssues_eq_of_listed listed, Mention.cssIssues_eq_of_listed listed]
    exact Mention.outcome_report (Mention.flatMap_ofDeclaration_alike restyled keyed vendor)

namespace Catalog

/-- Whether two names differ only in letter case and have one vendor prefix. -/
def SamePrefix (name other : String) : Prop :=
  Text.sameIgnoringCase name other = true ∧ vendorPrefix? name = vendorPrefix? other

/-- The properties of the sample block in capitals, except for their vendor prefixes. -/
def capitalBlock : List Declaration :=
  [{ name := "-moz-USER-SELECT" }, { name := "COLOR" },
    { name := "DISPLAY", value := some (.text "-webkit-flex flex") },
    { name := "-webkit-USER-SELECT" }]

theorem cssIssues_recased_iff_sample :
    ofJson sample = .ok sampleCatalog ∧
    List.Forall₂ (Declaration.Recased SamePrefix) sampleBlock capitalBlock ∧
    (cssIssues sampleCatalog sampleBlock sampleTargets { values := true }).map Issue.outcome =
      (cssIssues sampleCatalog capitalBlock sampleTargets { values := true }).map
        Issue.outcome := by
  have restyled : List.Forall₂ (Declaration.Recased SamePrefix) sampleBlock capitalBlock := by
    unfold sampleBlock capitalBlock Declaration.Recased SamePrefix
    simp only [List.forall₂_cons, List.forall₂_nil_left_iff]
    decide
  have caseOnly : ∀ name other, SamePrefix name other → Text.sameIgnoringCase name other = true :=
    fun name other same => same.1
  have vendor : ∀ name other, SamePrefix name other → vendorPrefix? name = vendorPrefix? other :=
    fun name other same => same.2
  exact ⟨ofJson_sample, restyled, (cssIssues_recased_iff caseOnly).mpr vendor sample sampleCatalog
    ofJson_sample sampleBlock capitalBlock restyled sampleTargets { values := true }⟩

/--
Letter case does make a difference in a vendor prefix. In capitals it is still found as the spelling
of the property that it is, but no record is for it.
-/
theorem not_every_case_alike :
    ¬ ∀ (json : Json) (catalog : Catalog), ofJson json = .ok catalog →
      ∀ declarations others : List Declaration,
        List.Forall₂ (Declaration.Recased (Text.sameIgnoringCase · · = true)) declarations others →
        ∀ (targets : List Target) (options : CheckOptions),
          (cssIssues catalog declarations targets options).map Issue.outcome =
            (cssIssues catalog others targets options).map Issue.outcome := by
  intro every
  have restyled : List.Forall₂ (Declaration.Recased (Text.sameIgnoringCase · · = true))
      [{ name := "-moz-user-select" }] [{ name := "-MOZ-user-select" }] :=
    .cons ⟨by decide, rfl⟩ .nil
  have same := every sample sampleCatalog ofJson_sample _ _ restyled [firefox60] {}
  revert same
  decide

end Catalog

end Portability
