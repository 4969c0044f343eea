import Portability.Proofs.Check.Telling
import Portability.Proofs.Support.Spellings

/-!
# Properties under the spellings of their records

A property that is written as one of its support records spells it is supported by that browser in
the range of the record, provided that the record agrees with its spelling. Where it does not, the
record is passed over: a property whose own name has a vendor prefix is an example. In the other
direction, a property that is supported under its own name has a record that agrees with this name.
Only prefixes are compared, so the record may be meant for another name.
-/
namespace Portability

theorem mem_unsupported_findings {catalog : Catalog} {path : List String} {targets : List Target}
    {options : CheckOptions} {target : Target} :
    target ∈ (findings catalog path targets options).unsupported ↔
      target ∈ targets ∧ ∃ table, catalog.root.tableAt? path = some table ∧
        options.fails (supportState (some table) target.id target.version
          (path.getLast?.getD "")) = true := by
  unfold findings
  cases catalog.root.tableAt? path <;> simp [failingTargets]

/-- Of a declaration without a value only the property is looked up. -/
theorem Summary.ofDeclaration_bare (catalog : Catalog) (name : String) (targets : List Target)
    (options : CheckOptions) :
    Summary.ofDeclaration catalog targets options { name } =
      [ofProperty name (findings catalog (Catalog.properties ++ [name]) targets options)] := by
  have valueless : ofComponents catalog targets options { name } = [] := rfl
  unfold ofDeclaration
  simp [valueless]

/-- An issue of a property by itself lists only targets that fail for its spelling. -/
theorem fails_of_mem_unsupported {catalog : Catalog} {name : String} {targets : List Target}
    {options : CheckOptions} {issue : Issue} {target : Target}
    (reported : issue ∈ cssIssues catalog [{ name }] targets options)
    (listed : target ∈ issue.unsupported) :
    ∃ table, catalog.root.tableAt? (Catalog.properties ++ [name]) = some table ∧
      options.fails (supportState (some table) target.id target.version name) = true := by
  unfold cssIssues at reported
  obtain ⟨summary, member, among⟩ := exists_unsupported_subset reported
  rw [List.flatMap_singleton, Summary.ofDeclaration_bare, List.mem_singleton] at member
  have failed := among listed
  rw [member] at failed
  obtain ⟨_, table, held, fails⟩ := mem_unsupported_findings.mp failed
  rw [List.getLast?_concat, Option.getD_some] at fails
  exact ⟨table, held, fails⟩

/--
A property under the spelling that a support record gives is not reported for the record's browser
at any version in the record's range, if the record agrees with that spelling.
-/
theorem cssIssues_spelling_supported {catalog : Catalog} {node : Node} {table : SupportTable}
    {target : Target} {records : List SupportRecord} {record : SupportRecord}
    (arrived : catalog.root.at? (Catalog.properties ++ [record.spelling node.name]) = some node)
    (usual : node.usualTable? = some table) (known : table.records? target.id = some records)
    (member : record ∈ records) (agrees : record.Agrees node.name)
    (since : record.added.number ≤ versionNumber target.version)
    (before : versionNumber target.version < record.removed.number) (options : CheckOptions) :
    ∀ issue ∈ cssIssues catalog [{ name := record.spelling node.name }] [target] options,
      target ∉ issue.unsupported := by
  intro issue reported listed
  obtain ⟨held, looked, failed⟩ := fails_of_mem_unsupported reported listed
  -- The spelling was looked up as any other, and led to the table that has the record.
  have same : held = table := by
    rw [Node.tableAt?, arrived, Option.bind_some, usual] at looked
    exact (Option.some.inj looked).symm
  rw [same, supportState_spelling known member agrees since before] at failed
  cases failed

namespace Catalog

def userSelectTable : SupportTable :=
  { support := [
      ("firefox", [{ added := .version "69" }, { added := .version "1", vendor := some "-moz-" }]),
      ("safari", [{ added := .version "3", vendor := some "-webkit-" }])] }

def userSelect : Node :=
  { label := .of "user-select"
    table := some (.direct userSelectTable)
    dataTypes := []
    link := some .canonical
    children := [] }

def mozUserSelect : SupportRecord := { added := .version "1", vendor := some "-moz-" }

/-- The spelling with a prefix leads to the property, whose record with that prefix agrees. -/
theorem cssIssues_spelling_supported_sample :
    mozUserSelect.spelling userSelect.name = "-moz-user-select" ∧
    mozUserSelect.Agrees userSelect.name ∧
    ∀ issue ∈ cssIssues sampleCatalog [{ name := mozUserSelect.spelling userSelect.name }]
        [firefox60] {},
      firefox60 ∉ issue.unsupported := by
  have spelled : mozUserSelect.spelling userSelect.name = "-moz-user-select" := by decide
  have agrees : mozUserSelect.Agrees userSelect.name := by decide
  have arrived : sampleCatalog.root.at? (properties ++ [mozUserSelect.spelling userSelect.name]) =
      some userSelect := by
    rw [spelled]
    decide
  have usual : userSelect.usualTable? = some userSelectTable := rfl
  have member : mozUserSelect ∈
      [{ added := .version "69" }, { added := .version "1", vendor := some "-moz-" }] := by
    decide
  have since : mozUserSelect.added.number ≤ versionNumber firefox60.version := by decide
  have before : versionNumber firefox60.version < mozUserSelect.removed.number := by decide
  exact ⟨spelled, agrees,
    cssIssues_spelling_supported arrived usual (by decide) member agrees since before {}⟩

/-- A snapshot with a property whose own name has a vendor prefix, and a plain record for it. -/
def ownPrefix : Json :=
  .object [("css", .object [("properties", .object [
    ("-webkit-tap-highlight-color", .object [("__compat", .object [("support", .object [
      ("safari", .object [("version_added", .text "1")])])])])])])]

def tapHighlight : Node :=
  { label := .of "-webkit-tap-highlight-color"
    table := some (.direct { support := [("safari", [{ added := .version "1" }])] })
    dataTypes := []
    link := none
    children := [] }

theorem isSome_ownPrefix : (ofJson ownPrefix).toOption.isSome = true := by decide

def ownPrefixCatalog : Catalog := (ofJson ownPrefix).toOption.get isSome_ownPrefix

/--
Without the condition this fails: the name of a property can have a vendor prefix of its own, and
then its plain record is passed over, as a record without a prefix.
-/
theorem not_every_spelling_supported :
    ¬ ∀ (json : Json) (catalog : Catalog) (node : Node) (table : SupportTable) (target : Target)
      (records : List SupportRecord) (record : SupportRecord) (options : CheckOptions),
      ofJson json = .ok catalog →
      catalog.root.at? (properties ++ [record.spelling node.name]) = some node →
      Node.isContextName node.name = false → node.usualTable? = some table →
      table.records? target.id = some records → record ∈ records →
      record.added.number ≤ versionNumber target.version →
      versionNumber target.version < record.removed.number →
      ∀ issue ∈ cssIssues catalog [{ name := record.spelling node.name }] [target] options,
        target ∉ issue.unsupported := by
  intro every
  have arrived : ownPrefixCatalog.root.at? (properties ++ ["-webkit-tap-highlight-color"]) =
      some tapHighlight := by
    decide
  have unlisted := every ownPrefix ownPrefixCatalog tapHighlight _
    { id := "safari", version := "5" } _ { added := .version "1" } {} rfl arrived (by decide) rfl
    rfl (by decide) (by decide) (by decide)
  have listed : ∃ issue ∈ cssIssues ownPrefixCatalog [{ name := "-webkit-tap-highlight-color" }]
      [{ id := "safari", version := "5" }] {},
      ({ id := "safari", version := "5" } : Target) ∈ issue.unsupported := by
    decide
  obtain ⟨issue, reported, failing⟩ := listed
  exact unlisted issue reported failing

end Catalog

theorem Mention.fails_ofProperty (catalog : Catalog) (options : CheckOptions) (name : String)
    (target : Target) :
    (ofProperty name).fails catalog options target =
      options.fails (supportState (catalog.root.tableAt? (Catalog.properties ++ [name])) target.id
        target.version name) := by
  unfold fails ofProperty
  rw [List.getLast?_concat, Option.getD_some]

/--
A property that is not reported under its own name owes this to a record whose prefix is the vendor
prefix of that name. Where the name has none, the record makes the property available under its own
name, unless a record without a prefix gives another name in this version.
-/
theorem cssIssues_own_name_supported {json : Json} {catalog : Catalog}
    (built : Catalog.ofJson json = .ok catalog) {parent node : Node} {table : SupportTable}
    {target : Target} {records : List SupportRecord} {declaration : Declaration}
    {options : CheckOptions} (arrived : catalog.root.at? Catalog.properties = some parent)
    (member : node ∈ parent.children) (real : node.isAlias = false)
    (usual : node.usualTable? = some table) (known : table.records? target.id = some records)
    (named : declaration.name = node.name)
    (unlisted : ∀ issue ∈ cssIssues catalog [declaration] [target] options,
      target ∉ issue.unsupported) :
    (∃ record ∈ records, record.vendor = vendorPrefix? node.name ∧
      record.covers (versionNumber target.version) = true) ∧
    (vendorPrefix? node.name = none →
      (∀ record ∈ records, record.vendor = none →
        record.covers (versionNumber target.version) = true → record.otherName = none) →
      ∃ record ∈ records, record.alias? node.name = none ∧
        record.covers (versionNumber target.version) = true) := by
  have tabled : catalog.root.tableAt? (Catalog.properties ++ [node.name]) = some table := by
    rw [Node.tableAt?, Node.at?_name (Catalog.root_wellFormed built) arrived member real,
      Option.bind_some, usual]
  have covered : ∃ record ∈ records, record.vendor = vendorPrefix? node.name ∧
      record.covers (versionNumber target.version) = true := by
    -- Otherwise the property fails, and as nothing else is declared this would be told.
    by_contra uncovered
    have fails : (Mention.ofProperty node.name).fails catalog options target = true := by
      rw [Mention.fails_ofProperty, tabled, supportState_eq_unsupported known uncovered]
      rfl
    have flagged : target ∈
        ((Mention.ofProperty declaration.name).issue catalog [target] options).unsupported := by
      rw [named]
      apply Mention.mem_unsupported_issue.mpr
      refine ⟨?_, List.mem_singleton_self target, fails⟩
      change (catalog.root.tableAt? (Catalog.properties ++ [node.name])).isSome = true
      rw [tabled]
      rfl
    obtain ⟨issue, reported, listed⟩ := exists_issue_of_flagged built flagged
    exact unlisted issue reported listed
  refine ⟨covered, fun plain unrenamed => ?_⟩
  obtain ⟨record, among, selected, covers⟩ := covered
  rw [plain] at selected
  refine ⟨record, among, ?_, covers⟩
  rw [SupportRecord.alias?_of_vendor_none selected]
  exact unrenamed record among selected covers

namespace Catalog

theorem isSome_sampleProperties : (sampleCatalog.root.at? properties).isSome = true := by decide

def sampleProperties : Node := (sampleCatalog.root.at? properties).get isSome_sampleProperties

def firefox70 : Target := { id := "firefox", version := "70" }

/-- Of the two records of one browser the plain one covers the version. -/
theorem cssIssues_own_name_supported_sample :
    sampleCatalog.root.at? properties = some sampleProperties ∧
    userSelect ∈ sampleProperties.children ∧ userSelect.isAlias = false ∧
    (∀ issue ∈ cssIssues sampleCatalog [{ name := userSelect.name }] [firefox70] {},
      firefox70 ∉ issue.unsupported) ∧
    (∃ record ∈ [{ added := .version "69" }, mozUserSelect],
      record.vendor = vendorPrefix? userSelect.name ∧
      record.covers (versionNumber firefox70.version) = true) ∧
    ∃ record ∈ [{ added := .version "69" }, mozUserSelect],
      record.alias? userSelect.name = none ∧
      record.covers (versionNumber firefox70.version) = true := by
  have arrived : sampleCatalog.root.at? properties = some sampleProperties := by rfl
  have member : userSelect ∈ sampleProperties.children := by decide
  have usual : userSelect.usualTable? = some userSelectTable := rfl
  have unlisted : ∀ issue ∈ cssIssues sampleCatalog [{ name := userSelect.name }] [firefox70] {},
      firefox70 ∉ issue.unsupported := by
    decide
  obtain ⟨covered, owned⟩ :=
    cssIssues_own_name_supported ofJson_sample arrived member rfl usual rfl rfl unlisted
  exact ⟨arrived, member, rfl, unlisted, covered, owned (by decide) (by decide)⟩

/-- Whether a property that is not reported under its own name has a record for that name. -/
def OwnNamesRecorded (catalog : Catalog) : Prop :=
  ∀ (parent node : Node) (table : SupportTable) (target : Target) (records : List SupportRecord)
    (options : CheckOptions),
    catalog.root.at? properties = some parent → node ∈ parent.children → node.isAlias = false →
    Node.isContextName node.name = false → node.usualTable? = some table →
    table.records? target.id = some records →
    (∀ issue ∈ cssIssues catalog [{ name := node.name }] [target] options,
      target ∉ issue.unsupported) →
    ∃ record ∈ records, record.alias? node.name = none ∧
      record.covers (versionNumber target.version) = true

/-- A snapshot with a property whose own name has the vendor prefix that its only record gives. -/
def twicePrefixed : Json :=
  .object [("css", .object [("properties", .object [
    ("-webkit-tap-highlight-color", .object [("__compat", .object [("support", .object [
      ("safari", .object [("version_added", .text "1"), ("prefix", .text "-webkit-")])])])])])])]

theorem isSome_twicePrefixed : (ofJson twicePrefixed).toOption.isSome = true := by decide

def twicePrefixedCatalog : Catalog := (ofJson twicePrefixed).toOption.get isSome_twicePrefixed

theorem isSome_twicePrefixedProperties :
    (twicePrefixedCatalog.root.at? properties).isSome = true := by
  decide

def twicePrefixedProperties : Node :=
  (twicePrefixedCatalog.root.at? properties).get isSome_twicePrefixedProperties

def twicePrefixedTapHighlight : Node :=
  { label := .of "-webkit-tap-highlight-color"
    table := some (.direct { support := [
      ("safari", [{ added := .version "1", vendor := some "-webkit-" }])] })
    dataTypes := []
    link := some .canonical
    children := [] }

def overflowWrap : Node :=
  { label := .of "overflow-wrap"
    table := some (.direct { support := [
      ("firefox", [{ added := .version "49" },
        { added := .version "3.5", otherName := some "word-wrap" }])] })
    dataTypes := []
    link := some .canonical
    children := [] }

/--
Both conditions are needed. A name with a vendor prefix takes the records that put this prefix
before it, and a name without one those that give another name without a prefix.
-/
theorem own_names_not_recorded :
    ofJson twicePrefixed = .ok twicePrefixedCatalog ∧ ¬twicePrefixedCatalog.OwnNamesRecorded ∧
    ofJson sample = .ok sampleCatalog ∧ ¬sampleCatalog.OwnNamesRecorded := by
  refine ⟨rfl, fun recorded => ?_, ofJson_sample, fun recorded => ?_⟩
  · have found := recorded twicePrefixedProperties twicePrefixedTapHighlight _
      { id := "safari", version := "5" } _ {} rfl (by decide) rfl (by decide) rfl rfl (by decide)
    revert found
    decide
  · have found := recorded sampleProperties overflowWrap _ { id := "firefox", version := "10" } _
      {} rfl (by decide) rfl (by decide) rfl rfl (by decide)
    revert found
    decide

end Catalog

end Portability
