import Portability.Proofs.Check.Spellings
import Portability.Proofs.Check.WellFormed

/-!
# Browsers of which a table says nothing

A support table need not have every browser. Not to count the missing ones as unsupported takes
browsers out of issues and changes nothing else: first each issue loses the browsers that are now
passed over, in a group those that some member passes over, then issues without a problem go.
-/
namespace Portability

/-- Whether the second issue is the first with some of its targets taken away. -/
def Issue.Thins (issue thinner : Issue) : Prop :=
  thinner.unsupported.Sublist issue.unsupported ∧
    thinner = { issue with unsupported := thinner.unsupported }

/-- Whether the second report is the first with targets taken away, and issues left without. -/
def Thinned (reported fewer : List Issue) : Prop :=
  ∃ thinner, List.Forall₂ Issue.Thins reported thinner ∧
    fewer = thinner.filter Issue.isReportable

/-- Whether the table at the end of a path has an entry for the browser of a target. -/
def Catalog.Knows (catalog : Catalog) (path : List String) (target : Target) : Prop :=
  ∃ table, catalog.root.tableAt? path = some table ∧ (table.records? target.id).isSome = true

namespace CheckOptions

/-- The options with another say on browsers of which a table says nothing. -/
def flagging (options : CheckOptions) (flagUnknown : Bool) : CheckOptions :=
  { options with flagUnknown }

theorem fails_flagging {options : CheckOptions} {state : SupportState}
    (failed : (options.flagging false).fails state = true) :
    (options.flagging true).fails state = true := by
  cases state with
  | supported => cases failed
  | browserNotFound => rfl
  | unsupported | dataNotFound => rfl

/-- What fails without the flag is either without a table or has an entry for the browser. -/
theorem isSome_records?_of_fails {options : CheckOptions} {table : SupportTable}
    {browser version spelling : String}
    (failed : (options.flagging false).fails
      (supportState (some table) browser version spelling) = true) :
    (table.records? browser).isSome = true := by
  cases known : table.records? browser with
  | some records => rfl
  | none =>
    simp only [supportState, known] at failed
    cases failed

end CheckOptions

/-! Issues that were not reportable before are none with fewer targets. -/

theorem Issue.Thins.isReportable {issue thinner : Issue} (thins : issue.Thins thinner)
    (reported : thinner.isReportable = true) : issue.isReportable = true := by
  obtain ⟨fewer, same⟩ := thins
  rw [Issue.isReportable_iff] at reported ⊢
  rw [same] at reported
  rcases reported with invalid | deprecated | experimental | listed
  · exact .inl invalid
  · exact .inr (.inl deprecated)
  · exact .inr (.inr (.inl experimental))
  · refine .inr (.inr (.inr ?_))
    rintro none
    rw [none] at fewer
    exact listed (List.sublist_nil.mp fewer)

/-- Thinning can come before the reportable issues are chosen or after. -/
theorem thinned_filter {drafts thinner : List Issue}
    (thins : List.Forall₂ Issue.Thins drafts thinner) :
    Thinned (drafts.filter Issue.isReportable) (thinner.filter Issue.isReportable) := by
  induction thins with
  | nil => exact ⟨[], .nil, rfl⟩
  | @cons draft thin _ _ first _ ih =>
    obtain ⟨kept, each, result⟩ := ih
    cases reported : draft.isReportable with
    | true =>
      refine ⟨thin :: kept, ?_, ?_⟩
      · rw [List.filter_cons_of_pos reported]
        exact .cons first each
      · rw [List.filter_cons, List.filter_cons, result]
    | false =>
      have silent : ¬thin.isReportable = true := by
        intro told
        rw [first.isReportable told] at reported
        cases reported
      refine ⟨kept, ?_, ?_⟩
      · rw [List.filter_cons_of_neg (by simp [reported])]
        exact each
      · rw [List.filter_cons_of_neg silent, result]

namespace Mention

variable {catalog : Catalog} {targets : List Target} {options : CheckOptions}

theorem fails_flagging {mention : Mention} {target : Target}
    (failed : mention.fails catalog (options.flagging false) target = true) :
    mention.fails catalog (options.flagging true) target = true :=
  CheckOptions.fails_flagging failed

/-- One mention by itself. -/
theorem issue_thins (mention : Mention) :
    (mention.issue catalog targets (options.flagging true)).Thins
      (mention.issue catalog targets (options.flagging false)) := by
  unfold issue
  cases catalog.root.tableAt? mention.path with
  | none => exact ⟨List.Sublist.refl _, rfl⟩
  | some table =>
    exact ⟨List.monotone_filter_right targets fun _ => fails_flagging, rfl⟩

/-- Members of a group lose different targets, but what all fail for only gets less. -/
theorem mergedIssue?_thins (key : String × Bool) (members : List Mention) :
    Option.Rel Issue.Thins (mergedIssue? catalog targets (options.flagging true) key members)
      (mergedIssue? catalog targets (options.flagging false) key members) := by
  cases members with
  | nil => exact .none
  | cons first rest =>
    have thins : (first.issue catalog targets (options.flagging true)).Thins
        (first.issue catalog targets (options.flagging false)) := issue_thins first
    obtain ⟨_, same⟩ := thins
    refine .some ⟨List.monotone_filter_right targets fun target together => ?_, ?_⟩
    · rw [List.all_eq_true] at together ⊢
      intro mention member
      exact fails_flagging (together mention member)
    · dsimp only
      rw [same]

theorem report_thinned (mentions : List Mention) :
    Thinned (report catalog targets (options.flagging true) mentions)
      (report catalog targets (options.flagging false) mentions) := by
  unfold report
  refine thinned_filter (List.rel_append ?_ ?_)
  · rw [List.forall₂_map_left_iff, List.forall₂_map_right_iff, List.forall₂_same]
    exact fun mention _ => issue_thins mention
  · exact forall₂_filterMap (fun key => mergedIssue?_thins key _) _

/-- Without the flag a mention lists only targets of which its table says something. -/
theorem knows_of_mem_unsupported {mention : Mention} {target : Target}
    (listed : target ∈ (mention.issue catalog targets (options.flagging false)).unsupported) :
    catalog.Knows mention.path target := by
  obtain ⟨tabled, _, failed⟩ := mem_unsupported_issue.mp listed
  obtain ⟨table, held⟩ := Option.isSome_iff_exists.mp tabled
  unfold fails at failed
  rw [held] at failed
  exact ⟨table, held, CheckOptions.isSome_records?_of_fails failed⟩

/-- An issue that is not about several spellings is what there is to say of one mention. -/
theorem exists_issue_of_not_isGroup {mentions : List Mention} {issue : Issue}
    (reported : issue ∈ report catalog targets options mentions)
    (single : issue.kind.isGroup = false) :
    ∃ mention ∈ mentions, issue = mention.issue catalog targets options := by
  rcases List.mem_append.mp (List.mem_filter.mp reported).1 with alone | merged
  · obtain ⟨mention, among, same⟩ := List.mem_map.mp alone
    exact ⟨mention, (List.mem_filter.mp among).1, same.symm⟩
  · obtain ⟨key, _, made⟩ := List.mem_filterMap.mp merged
    obtain ⟨first, _, same⟩ := Option.map_eq_some_iff.mp made
    rw [← same] at single
    cases level : key.2 <;> simp [level, IssueKind.isGroup] at single

end Mention

/-! Elements have no groups. -/

theorem knows_of_mem_findings {catalog : Catalog} {path : List String} {targets : List Target}
    {options : CheckOptions} {target : Target}
    (listed : target ∈ (findings catalog path targets (options.flagging false)).unsupported) :
    catalog.Knows path target := by
  obtain ⟨_, table, held, failed⟩ := mem_unsupported_findings.mp listed
  exact ⟨table, held, CheckOptions.isSome_records?_of_fails failed⟩

section

variable (catalog : Catalog) (targets : List Target) (options : CheckOptions)

theorem findings_thin (path : List String) :
    (findings catalog path targets (options.flagging false)).unsupported.Sublist
        (findings catalog path targets (options.flagging true)).unsupported ∧
      findings catalog path targets (options.flagging false) =
        { findings catalog path targets (options.flagging true) with
          unsupported := (findings catalog path targets (options.flagging false)).unsupported } := by
  unfold findings
  cases catalog.root.tableAt? path with
  | none => exact ⟨List.Sublist.refl _, rfl⟩
  | some table =>
    refine ⟨?_, rfl⟩
    exact List.monotone_filter_right targets fun _ => CheckOptions.fails_flagging

/-- What there is to say of an element by itself. -/
def elementDraft (element : String) : Issue :=
  { (findings catalog (Catalog.elements ++ [element]) targets options).issue .element with
    element := some element }

/-- What there is to say of an attribute, if it is looked at. -/
def attributeDraft? (element : String) (attr : Attribute) : Option Issue :=
  if attr.isData then none
  else (attributePath? catalog element attr.name).map fun path =>
    { (findings catalog path targets options).issue .elementAttribute with
      element := some element
      attributeName := some attr.name
      value := some attr.value }

theorem htmlIssues_eq (element : Element) :
    htmlIssues catalog element targets options =
      (elementDraft catalog targets options element.name ::
        element.attributes.filterMap (attributeDraft? catalog targets options element.name)).filter
        Issue.isReportable := by
  have own : (elementIssue? catalog element.name targets options).toList =
      [elementDraft catalog targets options element.name].filter Issue.isReportable := by
    unfold elementIssue? elementDraft
    dsimp only
    split
    next told => simp [told]
    next silent => simp [silent]
  have each (attr : Attribute) : attributeIssue? catalog element.name attr targets options =
      (attributeDraft? catalog targets options element.name attr).filter Issue.isReportable := by
    unfold attributeIssue? attributeDraft?
    split
    · rfl
    · cases attributePath? catalog element.name attr.name with
      | none => rfl
      | some path => rfl
  unfold htmlIssues
  rw [own, funext each, ← List.filter_filterMap, ← List.filter_append, List.singleton_append]

/-- Where the term is looked up that an issue of an element is about. -/
def checkedPath? (element : Element) (issue : Issue) : Option (List String) :=
  match issue.attributeName with
  | none => some (Catalog.elements ++ [element.name])
  | some name => attributePath? catalog element.name name

variable {catalog targets options}

theorem htmlIssues_thinned (element : Element) :
    Thinned (htmlIssues catalog element targets (options.flagging true))
      (htmlIssues catalog element targets (options.flagging false)) := by
  rw [htmlIssues_eq, htmlIssues_eq]
  refine thinned_filter (.cons ?_ (forall₂_filterMap (fun attr => ?_) _))
  · obtain ⟨fewer, same⟩ :=
      findings_thin catalog targets options (Catalog.elements ++ [element.name])
    refine ⟨fewer, ?_⟩
    unfold elementDraft
    rw [same]
    rfl
  · unfold attributeDraft?
    split
    · exact .none
    · cases attributePath? catalog element.name attr.name with
      | none => exact .none
      | some path =>
        obtain ⟨fewer, same⟩ := findings_thin catalog targets options path
        refine .some ⟨fewer, ?_⟩
        dsimp only
        rw [same]
        rfl

/-- Without the flag an issue of an element lists only targets of which the table says something. -/
theorem exists_checkedPath? {element : Element} {issue : Issue}
    (reported : issue ∈ htmlIssues catalog element targets (options.flagging false)) :
    ∃ path, checkedPath? catalog element issue = some path ∧
      ∀ target ∈ issue.unsupported, catalog.Knows path target := by
  rw [htmlIssues_eq] at reported
  rcases List.mem_cons.mp (List.mem_filter.mp reported).1 with own | among
  · subst own
    exact ⟨_, rfl, fun target listed => knows_of_mem_findings listed⟩
  · obtain ⟨attr, _, drafted⟩ := List.mem_filterMap.mp among
    unfold attributeDraft? at drafted
    split at drafted
    · cases drafted
    · obtain ⟨path, held, rfl⟩ := Option.map_eq_some_iff.mp drafted
      exact ⟨path, held, fun target listed => knows_of_mem_findings listed⟩

end

/--
Not to flag unknown browsers only takes targets out of a report, and issues that are left without a
problem. What stays in an issue of one spelling is a target of which the table of the checked term
says something.
-/
theorem unflagged_thinned {json : Json} {catalog : Catalog}
    (built : Catalog.ofJson json = .ok catalog) (targets : List Target) (options : CheckOptions) :
    (∀ declarations : List Declaration,
      Thinned (cssIssues catalog declarations targets (options.flagging true))
        (cssIssues catalog declarations targets (options.flagging false)) ∧
      ∀ issue ∈ cssIssues catalog declarations targets (options.flagging false),
        issue.kind.isGroup = false →
        ∃ mention ∈ declarations.flatMap (Mention.ofDeclaration catalog options),
          issue = mention.issue catalog targets (options.flagging false) ∧
          ∀ target ∈ issue.unsupported, catalog.Knows mention.path target) ∧
    ∀ element : Element,
      Thinned (htmlIssues catalog element targets (options.flagging true))
        (htmlIssues catalog element targets (options.flagging false)) ∧
      ∀ issue ∈ htmlIssues catalog element targets (options.flagging false),
        ∃ path, checkedPath? catalog element issue = some path ∧
          ∀ target ∈ issue.unsupported, catalog.Knows path target := by
  have listed := Catalog.isSome_tableAt?_of_canonicalName? built
  -- What is mentioned does not hang on the flag.
  have mentions (declarations : List Declaration) (flagUnknown : Bool) :
      cssIssues catalog declarations targets (options.flagging flagUnknown) =
        Mention.report catalog targets (options.flagging flagUnknown)
          (declarations.flatMap (Mention.ofDeclaration catalog options)) :=
    Mention.cssIssues_eq_of_listed listed declarations
  constructor
  · intro declarations
    rw [mentions, mentions]
    refine ⟨Mention.report_thinned _, fun issue reported single => ?_⟩
    obtain ⟨mention, among, same⟩ := Mention.exists_issue_of_not_isGroup reported single
    refine ⟨mention, among, same, fun target failing => ?_⟩
    rw [same] at failing
    exact Mention.knows_of_mem_unsupported failing
  · intro element
    exact ⟨htmlIssues_thinned element, fun issue => exists_checkedPath?⟩

namespace Catalog

/-- No table in the catalog says anything of the second target. -/
def mixedTargets : List Target := [firefox10, { id := "opera", version := "10" }]

theorem unflagged_thinned_variety :
    ofJson variety = .ok varietyCatalog ∧
    Thinned (cssIssues varietyCatalog varietyBlock mixedTargets { values := true })
      (cssIssues varietyCatalog varietyBlock mixedTargets
        { values := true, flagUnknown := false }) ∧
    ∀ issue ∈ htmlIssues varietyCatalog varietyElement mixedTargets { flagUnknown := false },
      ∃ path, checkedPath? varietyCatalog varietyElement issue = some path ∧
        ∀ target ∈ issue.unsupported, varietyCatalog.Knows path target := by
  obtain ⟨css, _⟩ := unflagged_thinned ofJson_variety mixedTargets { values := true }
  obtain ⟨_, html⟩ := unflagged_thinned ofJson_variety mixedTargets {}
  exact ⟨ofJson_variety, (css varietyBlock).1, (html varietyElement).2⟩

/-- One issue is only about a browser without an entry, and goes; the others lose that browser. -/
example :
    (cssIssues varietyCatalog varietyBlock mixedTargets { values := true }).map
        (fun issue => (issue.subject, issue.unsupported.map (·.id))) =
      [("displey", []), ("display", ["opera"]), ("display: grid", ["firefox", "opera"]),
        ("user-select alias", ["firefox", "opera"]),
        ("display: flex alias", ["firefox", "opera"])] ∧
    (cssIssues varietyCatalog varietyBlock mixedTargets
        { values := true, flagUnknown := false }).map
        (fun issue => (issue.subject, issue.unsupported.map (·.id))) =
      [("displey", []), ("display: grid", ["firefox"]), ("user-select alias", ["firefox"]),
        ("display: flex alias", ["firefox"])] := by
  decide +kernel

end Catalog

end Portability
