import Portability.Proofs.Catalog.Place
import Portability.Proofs.Check.Mentions

/-!
# Where failures are told

A mention of a term with one spelling is told in an issue of its own. All others share an issue with
the mentions of the same group, and that lists only targets for which they all fail. So a failure
can be missing from a report only because another mention of the group does not fail. Properties of
one group are always one property. Values of one group need not be one value: they share a name, and
may stand below different properties.
-/
namespace Portability

theorem Issue.isReportable_of_mem_unsupported {issue : Issue} {target : Target}
    (listed : target ∈ issue.unsupported) : issue.isReportable = true := by
  have some_listed : issue.unsupported.isEmpty = false := by
    rw [List.isEmpty_eq_false_iff]
    exact List.ne_nil_of_mem listed
  simp [isReportable, some_listed]

namespace Mention

section

variable (catalog : Catalog) (targets : List Target) (options : CheckOptions)

/-- Whether an issue is the one in which a mention is told: its own, or that of its group. -/
def IsToldBy (mention : Mention) (issue : Issue) : Prop :=
  match mention.group? catalog with
  | none => issue = mention.issue catalog targets options
  | some (name, isValue) =>
    issue.kind = (if isValue then .valueAliases else .propertyAliases) ∧
      (if isValue then issue.value else issue.property) = some name ∧
      mention.term ∈ issue.aliases

end

variable {catalog : Catalog} {targets : List Target} {options : CheckOptions}

theorem isValue_eq_of_group?_eq {mention other : Mention} {key : String × Bool}
    (left : mention.group? catalog = some key) (right : other.group? catalog = some key) :
    other.isValue = mention.isValue :=
  (group?_eq_some_iff.mp right).2.trans (group?_eq_some_iff.mp left).2.symm

/-- What a mention by itself lists: targets for which a term with a table fails. -/
theorem mem_unsupported_issue {mention : Mention} {target : Target} :
    target ∈ (mention.issue catalog targets options).unsupported ↔
      (catalog.root.tableAt? mention.path).isSome = true ∧ target ∈ targets ∧
        mention.fails catalog options target = true := by
  cases held : catalog.root.tableAt? mention.path with
  | none => simp [issue, held]
  | some table =>
    have tabled : (catalog.root.tableAt? mention.path).isSome = true := by simp [held]
    rw [unsupported_issue tabled, List.mem_filter]
    simp

/-- A failure of a term with one spelling is told as it is. -/
theorem issue_mem_report {mentions : List Mention} {mention : Mention} {target : Target}
    (member : mention ∈ mentions) (alone : mention.group? catalog = none)
    (flagged : target ∈ (mention.issue catalog targets options).unsupported) :
    mention.issue catalog targets options ∈ report catalog targets options mentions := by
  refine List.mem_filter.mpr
    ⟨List.mem_append_left _ ?_, Issue.isReportable_of_mem_unsupported flagged⟩
  exact List.mem_map_of_mem (List.mem_filter.mpr ⟨member, by simp [alone]⟩)

/-- The issue of a group, by what a reader sees of it. -/
theorem exists_mergedIssue? (catalog : Catalog) (targets : List Target) (options : CheckOptions)
    (key : String × Bool) {members : List Mention} (inhabited : members ≠ []) :
    ∃ issue, mergedIssue? catalog targets options key members = some issue ∧
      issue.kind = (if key.2 then .valueAliases else .propertyAliases) ∧
      (if key.2 then issue.value else issue.property) = some key.1 ∧
      issue.aliases = (members.map (·.term)).eraseDups ∧
      issue.unsupported =
        targets.filter fun target => members.all (·.fails catalog options target) := by
  obtain ⟨first, rest, rfl⟩ := List.exists_cons_of_ne_nil inhabited
  refine ⟨_, rfl, rfl, ?_, rfl, rfl⟩
  cases key.2 <;> rfl

/-- A target for which a whole group fails is told in the issue of the group. -/
theorem exists_told_of_all_fail {mentions : List Mention} {mention : Mention} {target : Target}
    {key : String × Bool} (member : mention ∈ mentions) (keyed : mention.group? catalog = some key)
    (known : target ∈ targets)
    (together : ∀ other ∈ mentions, other.group? catalog = some key →
      other.fails catalog options target = true) :
    ∃ issue ∈ report catalog targets options mentions,
      mention.IsToldBy catalog targets options issue ∧ target ∈ issue.unsupported := by
  have inside : mention ∈ mentions.filter (·.group? catalog = some key) :=
    List.mem_filter.mpr ⟨member, by simp [keyed]⟩
  obtain ⟨issue, merged, kind, named, aliases, unsupported⟩ :=
    exists_mergedIssue? catalog targets options key (List.ne_nil_of_mem inside)
  have listed : target ∈ issue.unsupported := by
    rw [unsupported, List.mem_filter, List.all_eq_true]
    refine ⟨known, fun other among => ?_⟩
    obtain ⟨present, grouped⟩ := List.mem_filter.mp among
    exact together other present (by simpa using grouped)
  -- The issue lists the target, so it is not dropped as one without a problem.
  refine ⟨issue, List.mem_filter.mpr ⟨List.mem_append_right _ ?_,
    Issue.isReportable_of_mem_unsupported listed⟩, ?_, listed⟩
  · refine List.mem_filterMap.mpr ⟨key, ?_, merged⟩
    exact List.mem_eraseDups.mpr (List.mem_filterMap.mpr ⟨mention, member, keyed⟩)
  · unfold IsToldBy
    rw [keyed]
    refine ⟨kind, named, ?_⟩
    rw [aliases, List.mem_eraseDups]
    exact List.mem_map_of_mem inside

/-- Only a mention of its own group can keep a failure from being told. -/
theorem told_or_spared {mentions : List Mention} {mention : Mention} {target : Target}
    (member : mention ∈ mentions)
    (flagged : target ∈ (mention.issue catalog targets options).unsupported) :
    (∃ issue ∈ report catalog targets options mentions,
      mention.IsToldBy catalog targets options issue ∧ target ∈ issue.unsupported) ∨
    ∃ key, mention.group? catalog = some key ∧
      ∃ other ∈ mentions, other.group? catalog = some key ∧
        target ∉ (other.issue catalog targets options).unsupported := by
  have known := (mem_unsupported_issue.mp flagged).2.1
  cases keyed : mention.group? catalog with
  | none =>
    refine .inl ⟨_, issue_mem_report member keyed flagged, ?_, flagged⟩
    unfold IsToldBy
    rw [keyed]
  | some key =>
    by_cases together : ∀ other ∈ mentions, other.group? catalog = some key →
        other.fails catalog options target = true
    · exact .inl (exists_told_of_all_fail member keyed known together)
    · push Not at together
      obtain ⟨other, among, grouped, passes⟩ := together
      refine .inr ⟨key, rfl, other, among, grouped, fun listed => ?_⟩
      exact passes (mem_unsupported_issue.mp listed).2.2

/-- In a block the mentions that are no values are those of its properties. -/
theorem exists_ofProperty {declarations : List Declaration} {mention : Mention}
    (mentioned : mention ∈ declarations.flatMap (ofDeclaration catalog options))
    (level : mention.isValue = false) :
    ∃ declaration ∈ declarations, mention = ofProperty declaration.name := by
  obtain ⟨declaration, among, inside⟩ := List.mem_flatMap.mp mentioned
  obtain ⟨values, shape, valued, _⟩ := exists_values catalog options declaration
  rw [shape] at inside
  rcases List.mem_cons.mp inside with own | value
  · exact ⟨declaration, among, own⟩
  · rw [valued mention value] at level
    cases level

/-- Properties of one group are one property under several spellings. -/
theorem place?_eq_of_group?_eq {json : Json} (built : Catalog.ofJson json = .ok catalog)
    {first second : String} {key : String × Bool}
    (left : (ofProperty first).group? catalog = some key)
    (right : (ofProperty second).group? catalog = some key) :
    catalog.root.place? (ofProperty first).path = catalog.root.place? (ofProperty second).path :=
  Node.place?_eq_of_canonicalName?_eq (Catalog.root_wellFormed built)
    (group?_eq_some_iff.mp left).1 (group?_eq_some_iff.mp right).1

end Mention

/-- A failing property that stands alone is told, since nothing in the block can stand in for it. -/
theorem exists_issue_of_flagged {json : Json} {catalog : Catalog}
    (built : Catalog.ofJson json = .ok catalog) {declaration : Declaration} {targets : List Target}
    {options : CheckOptions} {target : Target}
    (flagged : target ∈
      ((Mention.ofProperty declaration.name).issue catalog targets options).unsupported) :
    ∃ issue ∈ cssIssues catalog [declaration] targets options, target ∈ issue.unsupported := by
  rw [Mention.cssIssues_eq_of_listed (Catalog.isSome_tableAt?_of_canonicalName? built)]
  obtain ⟨values, shape, _⟩ := Mention.exists_values catalog options declaration
  have mentioned : Mention.ofProperty declaration.name ∈
      [declaration].flatMap (Mention.ofDeclaration catalog options) := by
    rw [List.flatMap_singleton, shape]
    exact List.mem_cons_self
  rcases Mention.told_or_spared mentioned flagged with
    ⟨issue, reported, _, listed⟩ | ⟨key, keyed, other, among, grouped, spared⟩
  · exact ⟨issue, reported, listed⟩
  · obtain ⟨itself, member, rfl⟩ :=
      Mention.exists_ofProperty among (Mention.isValue_eq_of_group?_eq keyed grouped)
    rw [List.mem_singleton.mp member] at spared
    exact absurd flagged spared

/--
A failure of a term for a target is told in the issue of the term, which lists the target, unless
the block has the same term in a spelling that does not fail. Only with values there is another way
out: a value with the same name below another property, if both have several spellings.
-/
theorem cssIssues_tell_failure {json : Json} {catalog : Catalog}
    (built : Catalog.ofJson json = .ok catalog) {declarations : List Declaration}
    {targets : List Target} {options : CheckOptions} {mention : Mention} {target : Target}
    (mentioned : mention ∈ declarations.flatMap (Mention.ofDeclaration catalog options))
    (flagged : target ∈ (mention.issue catalog targets options).unsupported) :
    (∃ issue ∈ cssIssues catalog declarations targets options,
      mention.IsToldBy catalog targets options issue ∧ target ∈ issue.unsupported) ∨
    ∃ other ∈ declarations.flatMap (Mention.ofDeclaration catalog options),
      target ∉ (other.issue catalog targets options).unsupported ∧
      (catalog.root.place? other.path = catalog.root.place? mention.path ∨
        mention.isValue = true ∧ (mention.group? catalog).isSome = true ∧
          other.group? catalog = mention.group? catalog) := by
  rw [Mention.cssIssues_eq_of_listed (Catalog.isSome_tableAt?_of_canonicalName? built)]
  rcases Mention.told_or_spared mentioned flagged with
    told | ⟨key, keyed, other, among, grouped, spared⟩
  · exact .inl told
  · refine .inr ⟨other, among, spared, ?_⟩
    cases level : mention.isValue with
    | true => exact .inr ⟨rfl, by rw [keyed]; rfl, grouped.trans keyed.symm⟩
    | false =>
      -- Two properties of one group: the other is this property in another spelling.
      have sameLevel := (Mention.isValue_eq_of_group?_eq keyed grouped).trans level
      obtain ⟨_, _, rfl⟩ := Mention.exists_ofProperty mentioned level
      obtain ⟨_, _, rfl⟩ := Mention.exists_ofProperty among sameLevel
      exact .inl (Mention.place?_eq_of_group?_eq built grouped keyed)

namespace Catalog

def firefox60 : Target := { id := "firefox", version := "60" }

def chromium25 : Target := { id := "chrome", version := "25", name := some "Chromium" }

def mozMention : Mention := Mention.ofProperty "-moz-user-select"

/-- One spelling of a property fails in the sample block, and the other one fails too. -/
theorem cssIssues_tell_failure_sample :
    ofJson sample = .ok sampleCatalog ∧
    mozMention ∈ sampleBlock.flatMap (Mention.ofDeclaration sampleCatalog { values := true }) ∧
    chromium25 ∈ (mozMention.issue sampleCatalog sampleTargets { values := true }).unsupported ∧
    ((∃ issue ∈ cssIssues sampleCatalog sampleBlock sampleTargets { values := true },
      mozMention.IsToldBy sampleCatalog sampleTargets { values := true } issue ∧
        chromium25 ∈ issue.unsupported) ∨
    ∃ other ∈ sampleBlock.flatMap (Mention.ofDeclaration sampleCatalog { values := true }),
      chromium25 ∉ (other.issue sampleCatalog sampleTargets { values := true }).unsupported ∧
      (sampleCatalog.root.place? other.path = sampleCatalog.root.place? mozMention.path ∨
        mozMention.isValue = true ∧ (mozMention.group? sampleCatalog).isSome = true ∧
          other.group? sampleCatalog = mozMention.group? sampleCatalog)) := by
  have mentioned : mozMention ∈
      sampleBlock.flatMap (Mention.ofDeclaration sampleCatalog { values := true }) := by
    decide +kernel
  have flagged : chromium25 ∈
      (mozMention.issue sampleCatalog sampleTargets { values := true }).unsupported := by
    decide
  exact ⟨ofJson_sample, mentioned, flagged, cssIssues_tell_failure ofJson_sample mentioned flagged⟩

/-- A snapshot in which two properties take a value of one name, each with its own spellings. -/
def fitContent : Json :=
  let compat (support : List (String × Json)) : String × Json :=
    ("__compat", .object [("support", .object support)])
  let since (version : String) : Json := .object [("version_added", .text version)]
  let behind (vendor version : String) : Json :=
    .object [("version_added", .text version), ("prefix", .text vendor)]
  .object [("css", .object [("properties", .object [
    ("width", .object [compat [("firefox", since "1")],
      ("fit-content", .object [compat [
        ("firefox", .list [since "94", behind "-moz-" "3"])]])]),
    ("height", .object [compat [("firefox", since "1")],
      ("fit-content", .object [compat [
        ("firefox", since "94"),
        ("chrome", .list [since "46", behind "-webkit-" "25"])]])])])])]

theorem isSome_fitContent : (ofJson fitContent).toOption.isSome = true := by decide

def fitContentCatalog : Catalog := (ofJson fitContent).toOption.get isSome_fitContent

def fitContentBlock : List Declaration :=
  [{ name := "width", value := some (.text "-moz-fit-content") },
    { name := "height", value := some (.text "fit-content") }]

def heightFitContent : Mention :=
  ⟨"height", "fit-content", properties ++ ["height", "fit-content"], true⟩

/--
Values that only share a name can hide each other's failures. For the height the value fails, but
nothing is reported, since a spelling of the value of that name for the width does not fail.
-/
theorem not_every_failure_told :
    ¬ ∀ (json : Json) (catalog : Catalog) (declarations : List Declaration)
      (targets : List Target) (options : CheckOptions) (mention : Mention) (target : Target),
      ofJson json = .ok catalog → options.values = true →
      mention ∈ declarations.flatMap (Mention.ofDeclaration catalog options) →
      target ∈ (mention.issue catalog targets options).unsupported →
      (∃ issue ∈ cssIssues catalog declarations targets options,
        mention.IsToldBy catalog targets options issue ∧ target ∈ issue.unsupported) ∨
      ∃ other ∈ declarations.flatMap (Mention.ofDeclaration catalog options),
        target ∉ (other.issue catalog targets options).unsupported ∧
        catalog.root.place? other.path = catalog.root.place? mention.path := by
  intro every
  have silent :
      cssIssues fitContentCatalog fitContentBlock [firefox60] { values := true } = [] := by
    decide +kernel
  have alone : ∀ other ∈ fitContentBlock.flatMap
        (Mention.ofDeclaration fitContentCatalog { values := true }),
      firefox60 ∉ (other.issue fitContentCatalog [firefox60] { values := true }).unsupported →
      fitContentCatalog.root.place? other.path ≠
        fitContentCatalog.root.place? heightFitContent.path := by
    decide +kernel
  have told := every fitContent fitContentCatalog fitContentBlock [firefox60] { values := true }
    heightFitContent firefox60 rfl rfl (by decide +kernel) (by decide)
  rcases told with ⟨issue, reported, _⟩ | ⟨other, among, spared, same⟩
  · rw [silent] at reported
    cases reported
  · exact alone other among spared same

end Catalog

end Portability
