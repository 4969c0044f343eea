import Portability.Proofs.Catalog.WellFormed
import Portability.Proofs.Check.Grouping

/-!
# What a declaration block mentions

A block mentions its properties and those components of their values that the catalog lists. This
alone decides its report: mentions of terms with one spelling stand for themselves, in their order,
and the others are told term by term, of each only the targets for which all spellings fail.
-/
namespace Portability

/-- A term in a declaration, and the place where the catalog is asked about it. -/
structure Mention where
  property : String
  term : String
  path : List String
  isValue : Bool
deriving DecidableEq

namespace Mention

/-- A declaration's property and, behind it, the listed components of a known property's value. -/
def ofDeclaration (catalog : Catalog) (options : CheckOptions) (declaration : Declaration) :
    List Mention :=
  let path := Catalog.properties ++ [declaration.name]
  let values := (Component.ofValue declaration.value).filterMap fun component =>
    match Verdict.of catalog declaration.name component with
    | .listed term place => some ⟨declaration.name, term, place, true⟩
    | .safe | .unverifiable => none
  ⟨declaration.name, declaration.name, path, false⟩ ::
    if options.values && catalog.hasTable path then values else []

/-- The mention of a property itself. -/
def ofProperty (name : String) : Mention := ⟨name, name, Catalog.properties ++ [name], false⟩

/-- Behind its property a declaration mentions nothing but values, and those only on request. -/
theorem exists_values (catalog : Catalog) (options : CheckOptions) (declaration : Declaration) :
    ∃ values, ofDeclaration catalog options declaration = ofProperty declaration.name :: values ∧
      (∀ mention ∈ values, mention.isValue = true) ∧ (options.values = false → values = []) := by
  refine ⟨_, rfl, fun mention member => ?_, fun unasked => by simp [unasked]⟩
  split at member
  · obtain ⟨component, _, listed⟩ := List.mem_filterMap.mp member
    cases found : Verdict.of catalog declaration.name component with
    | listed term place =>
      rw [found] at listed
      cases listed
      rfl
    | safe | unverifiable =>
      rw [found] at listed
      cases listed
  · cases member

section

variable (catalog : Catalog) (targets : List Target) (options : CheckOptions)

/-- The term of which a mention is a spelling among several, and whether that is a value. -/
def group? (mention : Mention) : Option (String × Bool) :=
  (catalog.root.canonicalName? mention.path).map (·, mention.isValue)

def fails (mention : Mention) (target : Target) : Bool :=
  options.fails (supportState (catalog.root.tableAt? mention.path) target.id target.version
    (mention.path.getLast?.getD ""))

/-- What is to be said of a mention by itself. -/
def issue (mention : Mention) : Issue :=
  let about : Issue :=
    { kind := if mention.isValue then .value else .property
      property := some mention.property
      value := if mention.isValue then some mention.term else none }
  match catalog.root.tableAt? mention.path with
  | none => { about with invalid := true }
  | some table =>
    { about with
      deprecated := table.standing.deprecated
      experimental := table.standing.experimental
      unsupported := targets.filter (mention.fails catalog options) }

/-- What is to be said of all mentions of one term: the rest is as for the first of them. -/
def mergedIssue? (key : String × Bool) (members : List Mention) : Option Issue :=
  members.head?.map fun first =>
    { first.issue catalog targets options with
      kind := if key.2 then .valueAliases else .propertyAliases
      property := some (if key.2 then first.property else key.1)
      value := if key.2 then some key.1 else none
      aliases := (members.map (·.term)).eraseDups
      unsupported := targets.filter fun target => members.all (·.fails catalog options target) }

/-- The mentions of terms with one spelling, then each other term once, where there is a problem. -/
def report (mentions : List Mention) : List Issue :=
  let single := mentions.filter fun mention => (mention.group? catalog).isNone
  let keys := (mentions.filterMap (·.group? catalog)).eraseDups
  let merged := keys.filterMap fun key =>
    mergedIssue? catalog targets options key (mentions.filter (·.group? catalog = some key))
  (single.map (·.issue catalog targets options) ++ merged).filter Issue.isReportable

/-- The summary of a mention, with the term that it spells as the catalog names it. -/
def summary (mention : Mention) : Summary :=
  ⟨mention.issue catalog targets options, mention.term, catalog.root.canonicalName? mention.path⟩

end

/-! Which failures a target has depends on its release alone. -/

theorem fails_eq_of_isSameRelease {target other : Target} (catalog : Catalog)
    (options : CheckOptions) (mention : Mention) (same : other.isSameRelease target = true) :
    mention.fails catalog options other = mention.fails catalog options target := by
  simp only [Target.isSameRelease, Bool.and_eq_true, beq_iff_eq] at same
  simp only [fails, same.1, same.2]

/-- So it makes no difference that lists are compared release by release. -/
theorem any_isSameRelease_eq {targets : List Target} {target : Target} (catalog : Catalog)
    (options : CheckOptions) (mention : Mention) (member : target ∈ targets) :
    (targets.filter (mention.fails catalog options)).any (·.isSameRelease target) =
      mention.fails catalog options target := by
  apply Bool.eq_iff_iff.mpr
  simp only [List.any_eq_true, List.mem_filter]
  constructor
  · rintro ⟨other, ⟨_, failed⟩, same⟩
    rwa [← fails_eq_of_isSameRelease catalog options mention same]
  · intro failed
    exact ⟨target, ⟨member, failed⟩, by simp [Target.isSameRelease]⟩

variable {catalog : Catalog} {targets : List Target} {options : CheckOptions}

theorem isValue_summary (mention : Mention) :
    (mention.summary catalog targets options).isValue = mention.isValue := by
  unfold Summary.isValue summary issue
  cases mention.isValue <;> cases catalog.root.tableAt? mention.path <;> rfl

theorem group?_summary (mention : Mention) :
    (mention.summary catalog targets options).group? = mention.group? catalog := by
  unfold Summary.group? group?
  rw [isValue_summary]
  rfl

theorem unsupported_issue {mention : Mention}
    (listed : (catalog.root.tableAt? mention.path).isSome = true) :
    (mention.issue catalog targets options).unsupported =
      targets.filter (mention.fails catalog options) := by
  obtain ⟨table, held⟩ := Option.isSome_iff_exists.mp listed
  unfold issue
  rw [held]

/-- A target fails for all mentions with a table if its release is in the lists of all of them. -/
theorem all_isSameRelease_eq {mentions : List Mention} {target : Target} (member : target ∈ targets)
    (tabled : ∀ mention ∈ mentions, (catalog.root.tableAt? mention.path).isSome = true) :
    ((mentions.map (summary catalog targets options)).all fun summary =>
      summary.issue.unsupported.any (·.isSameRelease target)) =
      mentions.all (·.fails catalog options target) := by
  induction mentions with
  | nil => rfl
  | cons first rest ih =>
    have own : (first.summary catalog targets options).issue.unsupported.any
        (·.isSameRelease target) = first.fails catalog options target := by
      change (first.issue catalog targets options).unsupported.any _ = _
      rw [unsupported_issue (tabled first List.mem_cons_self)]
      exact any_isSameRelease_eq catalog options first member
    have others := ih fun mention later => tabled mention (List.mem_cons_of_mem first later)
    rw [List.map_cons, List.all_cons, List.all_cons, own, others]

theorem group?_eq_some_iff {mention : Mention} {key : String × Bool} :
    mention.group? catalog = some key ↔
      catalog.root.canonicalName? mention.path = some key.1 ∧ mention.isValue = key.2 := by
  unfold group?
  cases catalog.root.canonicalName? mention.path <;> simp [Prod.ext_iff]

section

/- Every spelling of a term with several has the term's table. -/
variable (listed : ∀ path name, catalog.root.canonicalName? path = some name →
  (catalog.root.tableAt? path).isSome = true)

include listed

theorem isSome_tableAt?_of_group? {mention : Mention} {key : String × Bool}
    (keyed : mention.group? catalog = some key) :
    (catalog.root.tableAt? mention.path).isSome = true :=
  listed mention.path key.1 (group?_eq_some_iff.mp keyed).1

/-- Members of one group, merged one after another, make what is to be said of them together. -/
theorem ofMembers?_summary {key : String × Bool} {members : List Mention}
    (keyed : ∀ mention ∈ members, mention.group? catalog = some key) :
    (AliasGroup.ofMembers? key (members.map (summary catalog targets options))).map (·.issue) =
      mergedIssue? catalog targets options key members := by
  cases members with
  | nil => rfl
  | cons first rest =>
    have tabled : ∀ mention ∈ first :: rest,
        (catalog.root.tableAt? mention.path).isSome = true := by
      intro mention member
      exact isSome_tableAt?_of_group? listed (keyed mention member)
    have leveled : first.isValue = key.2 :=
      (group?_eq_some_iff.mp (keyed first List.mem_cons_self)).2
    have begun : (AliasGroup.start key.1
        (first.summary catalog targets options)).issue.unsupported =
        targets.filter (first.fails catalog options) := by
      rw [AliasGroup.unsupported_start]
      exact unsupported_issue (tabled first List.mem_cons_self)
    -- Filtering by one member after another comes to filtering by all of them at once.
    have shared : (targets.filter (first.fails catalog options)).filter (fun target =>
        (rest.map (summary catalog targets options)).all fun summary =>
          summary.issue.unsupported.any (·.isSameRelease target)) =
        targets.filter fun target => (first :: rest).all (·.fails catalog options target) := by
      rw [List.filter_filter]
      refine List.filter_congr fun target member => ?_
      rw [List.all_cons, Bool.and_comm, all_isSameRelease_eq member]
      intro mention later
      exact tabled mention (List.mem_cons_of_mem first later)
    rw [List.map_cons, AliasGroup.ofMembers?, Option.map_some, AliasGroup.issue_foldl_add,
      AliasGroup.aliases_foldl_add, AliasGroup.unsupported_foldl_add, begun, shared,
      mergedIssue?, List.head?_cons, Option.map_some, ← List.map_cons, List.map_map]
    congr 1
    unfold AliasGroup.start
    rw [isValue_summary, leveled]
    unfold summary issue
    rw [leveled]
    cases key.2 <;> cases catalog.root.tableAt? first.path <;> rfl

/-- The report of any mentions is that of their summaries. -/
theorem issuesOfSummaries_map (mentions : List Mention) :
    issuesOfSummaries (mentions.map (summary catalog targets options)) =
      report catalog targets options mentions := by
  have grouped : Summary.group? ∘ summary catalog targets options = group? catalog :=
    funext group?_summary
  rw [issuesOfSummaries_eq, List.filter_map, List.map_map, List.filterMap_map, grouped]
  unfold report
  congr 2
  · have alone : (fun summary : Summary => summary.group?.isNone) ∘
        summary catalog targets options = fun mention => (mention.group? catalog).isNone := by
      funext mention
      rw [Function.comp_apply, group?_summary]
    rw [alone]
    rfl
  · refine List.filterMap_congr fun key _ => ?_
    have chosen : (fun summary : Summary => decide (summary.group? = some key)) ∘
        summary catalog targets options =
        fun mention => decide (mention.group? catalog = some key) := by
      funext mention
      rw [Function.comp_apply, group?_summary]
    rw [AliasGroup.members, List.filter_map, chosen, ofMembers?_summary listed]
    intro mention member
    simpa using (List.mem_filter.mp member).2

/-- A check of a term finds what is to be said of its mention. -/
theorem findings_summary (mention : Mention) :
    (⟨{ (findings catalog mention.path targets options).issue
          (if mention.isValue then .value else .property) with
        property := some mention.property
        value := if mention.isValue then some mention.term else none },
      mention.term, (findings catalog mention.path targets options).aliasOf⟩ : Summary) =
      mention.summary catalog targets options := by
  unfold findings summary issue
  cases held : catalog.root.tableAt? mention.path with
  | none =>
    -- Without a table the check does not ask for other spellings; there are none to find.
    have single : catalog.root.canonicalName? mention.path = none := by
      cases named : catalog.root.canonicalName? mention.path with
      | none => rfl
      | some name =>
        have present := listed mention.path name named
        rw [held] at present
        cases present
    rw [single]
    rfl
  | some table =>
    have same : mention.fails catalog options = fun target =>
        options.fails (supportState (some table) target.id target.version
          (mention.path.getLast?.getD "")) := by
      unfold fails
      rw [held]
    rw [same]
    rfl

/-- A check looks up just what a declaration mentions. -/
theorem ofDeclaration_summary (declaration : Declaration) :
    Summary.ofDeclaration catalog targets options declaration =
      (ofDeclaration catalog options declaration).map (summary catalog targets options) := by
  have property (name : String) (path : List String) :
      Summary.ofProperty name (findings catalog path targets options) =
        summary catalog targets options ⟨name, name, path, false⟩ :=
    findings_summary listed ⟨name, name, path, false⟩
  have value (name term : String) (path : List String) :
      Summary.ofValue name term (findings catalog path targets options) =
        summary catalog targets options ⟨name, term, path, true⟩ :=
    findings_summary listed ⟨name, term, path, true⟩
  have known (path : List String) :
      (!(findings catalog path targets options).invalid) = catalog.hasTable path := by
    unfold findings Catalog.hasTable
    cases catalog.root.tableAt? path <;> rfl
  unfold Summary.ofDeclaration ofDeclaration
  simp only [property, known, List.map_cons]
  congr 1
  split
  · unfold Summary.ofComponents
    rw [List.map_filterMap]
    refine List.filterMap_congr fun component _ => ?_
    cases Verdict.of catalog declaration.name component with
    | safe | unverifiable => rfl
    | listed term place => simp [value]
  · rfl

/-- What a block mentions decides its issues. -/
theorem cssIssues_eq_of_listed (declarations : List Declaration) :
    cssIssues catalog declarations targets options =
      report catalog targets options (declarations.flatMap (ofDeclaration catalog options)) := by
  have looked : Summary.ofDeclaration catalog targets options = fun declaration =>
      (ofDeclaration catalog options declaration).map (summary catalog targets options) :=
    funext (ofDeclaration_summary listed)
  unfold cssIssues
  rw [looked, ← List.map_flatMap]
  exact issuesOfSummaries_map listed _

end

end Mention

theorem Catalog.isSome_tableAt?_of_canonicalName? {json : Json} {catalog : Catalog}
    (built : Catalog.ofJson json = .ok catalog) (path : List String) (name : String)
    (named : catalog.root.canonicalName? path = some name) :
    (catalog.root.tableAt? path).isSome = true :=
  Node.isSome_tableAt? (root_wellFormed built) named

/--
The issues of a declaration block are the report of all that the block mentions, whichever spellings
it uses, however often and in whatever order, and whether or not targets repeat a release.
-/
theorem cssIssues_eq_report {json : Json} {catalog : Catalog}
    (built : Catalog.ofJson json = .ok catalog) (declarations : List Declaration)
    (targets : List Target) (options : CheckOptions) :
    cssIssues catalog declarations targets options =
      Mention.report catalog targets options
        (declarations.flatMap (Mention.ofDeclaration catalog options)) := by
  have listed : ∀ path name, catalog.root.canonicalName? path = some name →
      (catalog.root.tableAt? path).isSome = true :=
    Catalog.isSome_tableAt?_of_canonicalName? built
  exact Mention.cssIssues_eq_of_listed listed declarations

namespace Catalog

def sampleBlock : List Declaration :=
  [{ name := "-moz-user-select" }, { name := "color" },
    { name := "display", value := some (.text "-webkit-flex flex") },
    { name := "-webkit-user-select" }]

/-- The second and the third target are one release, of which the third goes by another name. -/
def sampleTargets : List Target :=
  [{ id := "firefox", version := "60" }, { id := "chrome", version := "25" },
    { id := "chrome", version := "25", name := some "Chromium" },
    { id := "safari", version := "13" }]

theorem cssIssues_eq_report_sample :
    ofJson sample = .ok sampleCatalog ∧
    cssIssues sampleCatalog sampleBlock sampleTargets { values := true } =
      Mention.report sampleCatalog sampleTargets { values := true }
        (sampleBlock.flatMap (Mention.ofDeclaration sampleCatalog { values := true })) :=
  ⟨ofJson_sample, cssIssues_eq_report ofJson_sample _ _ _⟩

/-- Neither spelling of one property is for a browser without records, under either of its names. -/
example :
    (cssIssues sampleCatalog sampleBlock sampleTargets {}).map
        (fun issue => (issue.subject, issue.unsupported.map (·.name))) =
      [("color", []), ("display", [none, none]),
        ("-moz-user-select, -webkit-user-select aliases", [none, some "Chromium"])] := by
  decide +kernel

end Catalog

end Portability
