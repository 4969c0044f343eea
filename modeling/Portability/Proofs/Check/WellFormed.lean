import Portability.Check.Html
import Portability.Proofs.Check.Mentions
import Portability.Proofs.Check.Priority

/-!
# Issues as they are reported

Issues start out as findings, get the fields of their kind, and those of spellings are merged. What
is reported in the end has a problem to tell, names only targets that were asked for, has just the
fields of its kind, and reads as a whole sentence. Only properties and elements can be unknown:
values and attributes are checked at places that were chosen because they have a table, and a term
with several spellings always has one.
-/
namespace Portability

/-- The fields of issues of a kind, in the order of the JSON form; flags and targets all have. -/
def IssueKind.fields : IssueKind → List String
  | property => ["property"]
  | propertyAliases => ["property", "aliases"]
  | value => ["property", "value"]
  | valueAliases => ["property", "value", "aliases"]
  | element => ["element"]
  | elementAttribute => ["element", "attribute", "value"]

namespace Issue

/-- The fields that an issue has. -/
def fields (issue : Issue) : List String :=
  [("property", issue.property.isSome), ("element", issue.element.isSome),
    ("attribute", issue.attributeName.isSome), ("value", issue.value.isSome),
    ("aliases", !issue.aliases.isEmpty)].filterMap fun (name, present) =>
      if present then some name else none

/-- What holds of every issue in a report for some targets. -/
structure WellFormed (targets : List Target) (issue : Issue) : Prop where
  problem : issue.invalid = true ∨ issue.deprecated = true ∨ issue.experimental = true ∨
    issue.unsupported ≠ []
  asked : issue.unsupported.Sublist targets
  fields : issue.fields = issue.kind.fields
  spellings : if issue.kind.isGroup then issue.aliases ≠ [] ∧ issue.aliases.Nodup
    else issue.aliases = []
  /-- Of an unknown term nothing else can be said. -/
  unknown : issue.invalid = true → (issue.kind = .property ∨ issue.kind = .element) ∧
    issue.deprecated = false ∧ issue.experimental = false ∧ issue.unsupported = []

/-- The text says that the subject is invalid, or makes at least one statement about it. -/
def IsSentence (issue : Issue) : Prop :=
  if issue.invalid then issue.text = issue.subject ++ " is invalid."
  else ∃ first rest, (∀ clause ∈ first :: rest, clause ≠ "") ∧
    issue.text = issue.subject ++ " " ++ " and ".intercalate (first :: rest) ++ "."

theorem isReportable_iff (issue : Issue) :
    issue.isReportable = true ↔ issue.invalid = true ∨ issue.deprecated = true ∨
      issue.experimental = true ∨ issue.unsupported ≠ [] := by
  simp [isReportable, or_assoc]

/-- Each statement begins with a verb. -/
theorem ne_empty_of_mem_clauses {issue : Issue} {clause : String}
    (member : clause ∈ issue.clauses) : clause ≠ "" := by
  simp only [clauses, List.mem_append, Option.mem_toList, Option.map_eq_some_iff] at member
  rcases member with ⟨standing, _, rfl⟩ | support
  · split <;> simp
  · split at support
    · cases support
    · rw [← Option.some.inj support]
      split <;> simp

/-- A known term with a problem is the subject of a statement. -/
theorem clauses_ne_nil {issue : Issue} (known : issue.invalid = false)
    (reported : issue.isReportable = true) : issue.clauses ≠ [] := by
  rw [isReportable_iff, known] at reported
  unfold clauses standing?
  cases deprecated : issue.deprecated <;> cases experimental : issue.experimental <;>
    simp_all

theorem WellFormed.isSentence {targets : List Target} {issue : Issue}
    (formed : issue.WellFormed targets) : issue.IsSentence := by
  unfold IsSentence
  split
  next invalid =>
    -- An unknown term has one spelling, so the verb is in the singular.
    have single : issue.isPlural = false := by
      unfold isPlural
      rcases (formed.unknown invalid).1 with kind | kind <;> rw [kind] <;> rfl
    rw [text, if_pos invalid, single, String.append_assoc]
    rfl
  next known =>
    have settled : issue.invalid = false := by simpa using known
    have present := clauses_ne_nil settled ((isReportable_iff issue).mpr formed.problem)
    obtain ⟨first, rest, shape⟩ := List.exists_cons_of_ne_nil present
    refine ⟨first, rest, fun clause member => ?_, ?_⟩
    · exact ne_empty_of_mem_clauses (shape ▸ member)
    · rw [text, if_neg known, shape]

end Issue

/-! What is checked has a table, save for properties and elements. -/

theorem hasTable_of_attributePath? {catalog : Catalog} {element name : String} {path : List String}
    (placed : attributePath? catalog element name = some path) : catalog.hasTable path = true :=
  List.find?_some placed

namespace Mention

variable {catalog : Catalog} {targets : List Target} {options : CheckOptions}

theorem hasTable_of_isValue {declaration : Declaration} {mention : Mention}
    (member : mention ∈ ofDeclaration catalog options declaration)
    (level : mention.isValue = true) : catalog.hasTable mention.path = true := by
  unfold ofDeclaration at member
  rcases List.mem_cons.mp member with property | value
  · rw [property] at level
    cases level
  · split at value
    · obtain ⟨component, _, made⟩ := List.mem_filterMap.mp value
      split at made
      next listed =>
        cases made
        exact Verdict.hasTable_of_listed listed
      · cases made
      · cases made
    · cases value

/-- A mention by itself is told well, if it is told at all. -/
theorem issue_wellFormed {mention : Mention}
    (tabled : mention.isValue = true → catalog.hasTable mention.path = true)
    (reported : (mention.issue catalog targets options).isReportable = true) :
    (mention.issue catalog targets options).WellFormed targets := by
  have problem := (Issue.isReportable_iff _).mp reported
  unfold Catalog.hasTable at tabled
  cases held : catalog.root.tableAt? mention.path with
  -- A term without a table is unknown, and then it is no value.
  | none =>
    have level : mention.isValue = false := by simpa [held] using tabled
    refine ⟨problem, ?_, ?_, ?_, ?_⟩ <;> unfold issue <;> rw [held, level]
    · exact List.nil_sublist targets
    · rfl
    · rfl
    · exact fun _ => ⟨.inl rfl, rfl, rfl, rfl⟩
  | some table =>
    refine ⟨problem, ?_, ?_, ?_, ?_⟩ <;> unfold issue <;> rw [held]
    · exact List.filter_sublist
    · cases mention.isValue <;> rfl
    · cases mention.isValue <;> rfl
    · exact fun invalid => Bool.noConfusion invalid

/-- So is what is merged from mentions with tables. -/
theorem mergedIssue?_wellFormed {key : String × Bool} {members : List Mention} {issue : Issue}
    (tabled : ∀ mention ∈ members, (catalog.root.tableAt? mention.path).isSome = true)
    (merged : mergedIssue? catalog targets options key members = some issue)
    (reported : issue.isReportable = true) : issue.WellFormed targets := by
  have problem := (Issue.isReportable_iff issue).mp reported
  cases members with
  | nil => cases merged
  | cons first rest =>
    obtain ⟨table, held⟩ := Option.isSome_iff_exists.mp (tabled first List.mem_cons_self)
    -- The first spelling always stays in the list.
    obtain ⟨others, spelled⟩ : ∃ others, ((first :: rest).map (·.term)).eraseDups =
        first.term :: others := ⟨_, List.eraseDups_cons⟩
    have distinct := nodup_eraseDups ((first :: rest).map (·.term))
    rw [mergedIssue?, List.head?_cons, Option.map_some] at merged
    rw [spelled] at distinct merged
    cases merged
    refine ⟨problem, List.filter_sublist, ?_, ?_, ?_⟩ <;> unfold Mention.issue <;> rw [held]
    · cases key.2 <;> rfl
    · cases key.2 <;> exact ⟨List.cons_ne_nil _ _, distinct⟩
    · exact fun invalid => Bool.noConfusion invalid

/-- A report of mentions whose values have tables tells all of them well. -/
theorem report_wellFormed
    (listed : ∀ path name, catalog.root.canonicalName? path = some name →
      (catalog.root.tableAt? path).isSome = true) {mentions : List Mention}
    (tabled : ∀ mention ∈ mentions, mention.isValue = true → catalog.hasTable mention.path = true)
    {issue : Issue} (reported : issue ∈ report catalog targets options mentions) :
    issue.WellFormed targets := by
  obtain ⟨among, problem⟩ := List.mem_filter.mp reported
  -- An issue is that of one mention, or that of all mentions with the key of a term.
  rcases List.mem_append.mp among with single | merged
  · obtain ⟨mention, member, rfl⟩ := List.mem_map.mp single
    exact issue_wellFormed (tabled mention (List.mem_filter.mp member).1) problem
  · obtain ⟨key, _, made⟩ := List.mem_filterMap.mp merged
    refine mergedIssue?_wellFormed (fun mention member => ?_) made problem
    have keyed : mention.group? catalog = some key := by
      simpa using (List.mem_filter.mp member).2
    exact isSome_tableAt?_of_group? listed keyed

end Mention

/-! Elements and their attributes. -/

section

variable {catalog : Catalog} {targets : List Target} {options : CheckOptions}

theorem elementIssue?_wellFormed {element : String} {issue : Issue}
    (found : elementIssue? catalog element targets options = some issue) :
    issue.WellFormed targets := by
  unfold elementIssue? at found
  dsimp only at found
  split at found
  next reported =>
    have problem := (Issue.isReportable_iff _).mp reported
    cases found
    refine ⟨problem, ?_, rfl, rfl, ?_⟩ <;> unfold findings <;>
      cases catalog.root.tableAt? (Catalog.elements ++ [element])
    · exact List.nil_sublist targets
    · exact List.filter_sublist
    · exact fun _ => ⟨.inr rfl, rfl, rfl, rfl⟩
    · exact fun invalid => Bool.noConfusion invalid
  · cases found

theorem attributeIssue?_wellFormed {element : String} {attr : Attribute} {issue : Issue}
    (found : attributeIssue? catalog element attr targets options = some issue) :
    issue.WellFormed targets := by
  unfold attributeIssue? at found
  split at found
  · cases found
  · split at found
    · cases found
    next path placed =>
      dsimp only at found
      split at found
      next reported =>
        have problem := (Issue.isReportable_iff _).mp reported
        obtain ⟨table, held⟩ := Option.isSome_iff_exists.mp (hasTable_of_attributePath? placed)
        cases found
        refine ⟨problem, ?_, rfl, rfl, ?_⟩ <;> unfold findings <;> rw [held]
        · exact List.filter_sublist
        · exact fun invalid => Bool.noConfusion invalid
      · cases found

theorem htmlIssues_wellFormed {element : Element} {issue : Issue}
    (reported : issue ∈ htmlIssues catalog element targets options) : issue.WellFormed targets := by
  rcases List.mem_append.mp reported with own | inner
  · exact elementIssue?_wellFormed (Option.mem_toList.mp own)
  · obtain ⟨attr, _, found⟩ := List.mem_filterMap.mp inner
    exact attributeIssue?_wellFormed found

theorem cssIssues_wellFormed {json : Json} (built : Catalog.ofJson json = .ok catalog)
    {declarations : List Declaration} {issue : Issue}
    (reported : issue ∈ cssIssues catalog declarations targets options) :
    issue.WellFormed targets := by
  have listed := Catalog.isSome_tableAt?_of_canonicalName? built
  rw [Mention.cssIssues_eq_of_listed listed] at reported
  refine Mention.report_wellFormed listed (fun mention member level => ?_) reported
  obtain ⟨declaration, _, inside⟩ := List.mem_flatMap.mp member
  exact Mention.hasTable_of_isValue inside level

end

/--
Every issue of a declaration block and of an element is well formed, and so its text is a sentence
that says something.
-/
theorem issues_wellFormed {json : Json} {catalog : Catalog}
    (built : Catalog.ofJson json = .ok catalog) (declarations : List Declaration)
    (element : Element) (targets : List Target) (options : CheckOptions) :
    ∀ issue ∈ cssIssues catalog declarations targets options ++
        htmlIssues catalog element targets options,
      issue.WellFormed targets ∧ issue.IsSentence := by
  intro issue reported
  have formed : issue.WellFormed targets := by
    rcases List.mem_append.mp reported with css | html
    · exact cssIssues_wellFormed built css
    · exact htmlIssues_wellFormed html
  exact ⟨formed, formed.isSentence⟩

namespace Catalog

/-- A snapshot of two properties, one of which takes two values, and of an element. -/
def variety : Json :=
  let term (support : List (String × Json)) (inner : List (String × Json)) : Json :=
    .object (("__compat", .object [("support", .object support)]) :: inner)
  let since (version : String) : Json := .object [("version_added", .text version)]
  let behind (vendor version : String) : Json :=
    .object [("version_added", .text version), ("prefix", .text vendor)]
  .object [
    ("css", .object [("properties", .object [
      ("user-select", term [("firefox", .list [since "69", behind "-moz-" "1"])] []),
      ("display", term [("firefox", since "1")] [
        ("grid", term [("firefox", since "52")] []),
        ("flex", term [("firefox", .list [since "20", behind "-webkit-" "49"])] [])])])]),
    ("html", .object [("elements", .object [
      ("dialog", term [("firefox", since "98")] [("open", term [("firefox", since "98")] [])])])])]

theorem isSome_variety : (ofJson variety).toOption.isSome = true := by decide

def varietyCatalog : Catalog := (ofJson variety).toOption.get isSome_variety

theorem ofJson_variety : ofJson variety = .ok varietyCatalog := by rfl

def varietyBlock : List Declaration :=
  [{ name := "user-select" }, { name := "displey" },
    { name := "display", value := some (.text "grid flex") }]

def varietyElement : Element := { name := "dialog", attributes := [{ name := "open" }] }

def firefox10 : Target := { id := "firefox", version := "10" }

theorem issues_wellFormed_variety :
    ofJson variety = .ok varietyCatalog ∧
    ∀ issue ∈ cssIssues varietyCatalog varietyBlock [firefox10] { values := true } ++
        htmlIssues varietyCatalog varietyElement [firefox10] { values := true },
      issue.WellFormed [firefox10] ∧ issue.IsSentence :=
  ⟨ofJson_variety, issues_wellFormed ofJson_variety _ _ _ _⟩

/-- One issue of each kind. -/
example :
    (cssIssues varietyCatalog varietyBlock [firefox10] { values := true } ++
        htmlIssues varietyCatalog varietyElement [firefox10] { values := true }).map Issue.text =
      ["displey is invalid.", "display: grid does not support firefox 10.",
        "user-select alias does not support firefox 10.",
        "display: flex alias does not support firefox 10.", "<dialog> does not support firefox 10.",
        "<dialog open> does not support firefox 10."] := by
  decide +kernel

end Catalog

end Portability
