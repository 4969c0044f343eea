import Portability.Proofs.Check.Mentions

/-!
# Properties apart from values

Properties and values are looked up side by side, and their issues leave in one list. Still the two
levels do not touch: a value never joins the group of a property, so that the issues of properties
are those of a check that does not look at values at all, one by one and in the same order.
-/
namespace Portability

/-- Whether an issue of this kind is about values. -/
def IssueKind.isOfValue (kind : IssueKind) : Bool := kind == value || kind == valueAliases

namespace Mention

variable {catalog : Catalog} {targets : List Target} {options : CheckOptions}

theorem isOfValue_issue (mention : Mention) :
    (mention.issue catalog targets options).kind.isOfValue = mention.isValue := by
  unfold issue
  cases mention.isValue <;> cases catalog.root.tableAt? mention.path <;> rfl

theorem mergedIssue?_filter (key : String × Bool) (members : List Mention) :
    (mergedIssue? catalog targets options key members).filter (!·.kind.isOfValue) =
      if !key.2 then mergedIssue? catalog targets options key members else none := by
  obtain ⟨name, level⟩ := key
  cases members with
  | nil => cases level <;> rfl
  | cons first rest => cases level <;> rfl

/-- Mentions on one level have their groups among themselves. -/
theorem filterMap_group?_filter (mentions : List Mention) :
    (mentions.filter (!·.isValue)).filterMap (·.group? catalog) =
      (mentions.filterMap (·.group? catalog)).filter (!·.2) := by
  rw [List.filterMap_filter, List.filter_filterMap]
  refine List.filterMap_congr fun mention _ => ?_
  unfold group?
  cases catalog.root.canonicalName? mention.path <;> cases mention.isValue <;> rfl

theorem filter_group?_filter {mentions : List Mention} {key : String × Bool}
    (level : key.2 = false) :
    (mentions.filter (!·.isValue)).filter (·.group? catalog = some key) =
      mentions.filter (·.group? catalog = some key) := by
  rw [List.filter_filter]
  refine List.filter_congr fun mention _ => ?_
  by_cases keyed : mention.group? catalog = some key
  · simp [keyed, (group?_eq_some_iff.mp keyed).2, level]
  · simp [keyed]

/-- What a report says of properties is the report of the properties. -/
theorem report_filter (mentions : List Mention) :
    (report catalog targets options mentions).filter (!·.kind.isOfValue) =
      report catalog targets options (mentions.filter (!·.isValue)) := by
  unfold report
  rw [List.filter_comm, List.filter_append]
  congr 2
  -- Terms with one spelling keep their order among themselves.
  · have level : (!·.kind.isOfValue) ∘ issue catalog targets options = (!·.isValue) := by
      funext mention
      rw [Function.comp_apply, isOfValue_issue]
    rw [List.filter_map, level, List.filter_comm]
  -- Each key leads to an issue on its level, so leaving out issues is leaving out keys.
  · rw [filterMap_group?_filter, eraseDups_filter, List.filter_filterMap, List.filterMap_filter]
    refine List.filterMap_congr fun key _ => ?_
    rw [mergedIssue?_filter]
    cases level : key.2 with
    | true => rfl
    | false => rw [filter_group?_filter level]

/-- With or without values a declaration mentions its property, and no other one. -/
theorem filter_ofDeclaration (declaration : Declaration) :
    (ofDeclaration catalog options declaration).filter (!·.isValue) =
      [ofProperty declaration.name] := by
  obtain ⟨values, shape, valued, _⟩ := exists_values catalog options declaration
  rw [shape, List.filter_cons_of_pos rfl, List.filter_eq_nil_iff.mpr]
  intro mention member
  simp [valued mention member]

theorem ofDeclaration_of_unasked (unasked : options.values = false) (declaration : Declaration) :
    ofDeclaration catalog options declaration = [ofProperty declaration.name] := by
  obtain ⟨values, shape, _, none⟩ := exists_values catalog options declaration
  rw [shape, none unasked]

theorem flatMap_ofDeclaration_of_unasked (unasked : options.values = false)
    (declarations : List Declaration) :
    declarations.flatMap (ofDeclaration catalog options) =
      (declarations.map (·.name)).map ofProperty := by
  rw [funext (ofDeclaration_of_unasked unasked), ← List.map_eq_flatMap, List.map_map]
  rfl

theorem filter_flatMap_ofDeclaration (declarations : List Declaration) :
    (declarations.flatMap (ofDeclaration catalog options)).filter (!·.isValue) =
      (declarations.map (·.name)).map ofProperty := by
  rw [List.filter_flatMap, funext filter_ofDeclaration, ← List.map_eq_flatMap, List.map_map]
  rfl

/-- Whether values are asked for makes no difference to a report of the same mentions. -/
theorem report_values (flagUnknown : Bool) (mentions : List Mention) :
    report catalog targets { values := true, flagUnknown } mentions =
      report catalog targets { values := false, flagUnknown } mentions := rfl

end Mention

/--
Checking values only adds issues of values. Without them the issues are the same, in the same order,
as of a check that does not look at values, and to that check only the names of properties matter.
-/
theorem cssIssues_values_additive {json : Json} {catalog : Catalog}
    (built : Catalog.ofJson json = .ok catalog) (declarations : List Declaration)
    (targets : List Target) (flagUnknown : Bool) :
    (cssIssues catalog declarations targets { values := true, flagUnknown }).filter
        (!·.kind.isOfValue) =
      cssIssues catalog declarations targets { values := false, flagUnknown } ∧
    ∀ others : List Declaration, others.map (·.name) = declarations.map (·.name) →
      cssIssues catalog others targets { values := false, flagUnknown } =
        cssIssues catalog declarations targets { values := false, flagUnknown } := by
  have listed := Catalog.isSome_tableAt?_of_canonicalName? built
  have unasked (others : List Declaration) :
      cssIssues catalog others targets { values := false, flagUnknown } =
        Mention.report catalog targets { values := false, flagUnknown }
          ((others.map (·.name)).map Mention.ofProperty) := by
    rw [Mention.cssIssues_eq_of_listed listed, Mention.flatMap_ofDeclaration_of_unasked rfl]
  constructor
  · rw [unasked, Mention.cssIssues_eq_of_listed listed, Mention.report_filter,
      Mention.filter_flatMap_ofDeclaration, Mention.report_values]
  · intro others named
    rw [unasked, unasked, named]

namespace Catalog

/-- The properties of the sample block with other values, or with none. -/
def restyledBlock : List Declaration :=
  [{ name := "-moz-user-select", value := some (.text "none") }, { name := "color" },
    { name := "display" }, { name := "-webkit-user-select" }]

theorem cssIssues_values_additive_sample :
    ofJson sample = .ok sampleCatalog ∧
    restyledBlock.map (·.name) = sampleBlock.map (·.name) ∧
    (cssIssues sampleCatalog sampleBlock sampleTargets { values := true }).filter
        (!·.kind.isOfValue) =
      cssIssues sampleCatalog sampleBlock sampleTargets {} ∧
    cssIssues sampleCatalog restyledBlock sampleTargets {} =
      cssIssues sampleCatalog sampleBlock sampleTargets {} := by
  have named : restyledBlock.map (·.name) = sampleBlock.map (·.name) := by decide
  obtain ⟨same, bare⟩ := cssIssues_values_additive ofJson_sample sampleBlock sampleTargets true
  exact ⟨ofJson_sample, named, same, bare restyledBlock named⟩

/-- There is something to leave out: the value of one declaration is at fault too. -/
example :
    (cssIssues sampleCatalog sampleBlock sampleTargets { values := true }).map
        (fun issue => (issue.subject, issue.kind.isOfValue)) =
      [("color", false), ("display", false),
        ("-moz-user-select, -webkit-user-select aliases", false),
        ("display: -webkit-flex, flex aliases", true)] := by
  decide +kernel

end Catalog

end Portability
