import Portability.Proofs.Check.WellFormed
import Portability.Proofs.Json.Fields
import Portability.Proofs.Text.LowerCase

/-!
# Elements and attributes by themselves

A document of elements is checked element by element, and an element attribute by attribute. What is
reported of one of them is nothing to the others: the issues of a list of elements are those of its
elements side by side, and an attribute that is left alone may stand anywhere. Only a document with
something in it that is no element is not checked at all.
-/
namespace Portability

/-- A list, and the same list with items of some sort inserted anywhere. -/
inductive Inserted {α : Type} (sort : α → Prop) : List α → List α → Prop
  | nil : Inserted sort [] []
  | kept (item : α) {items longer : List α} (others : Inserted sort items longer) :
      Inserted sort (item :: items) (item :: longer)
  | added {item : α} {items longer : List α} (allowed : sort item)
      (others : Inserted sort items longer) : Inserted sort items (item :: longer)

/-- Items that come to nothing make no difference. -/
theorem Inserted.filterMap_eq {α β : Type} {sort : α → Prop} {items longer : List α}
    {result? : α → Option β} (inserted : Inserted sort items longer)
    (nothing : ∀ item, sort item → result? item = none) :
    longer.filterMap result? = items.filterMap result? := by
  induction inserted with
  | nil => rfl
  | kept item _ ih => rw [List.filterMap_cons, List.filterMap_cons, ih]
  | added allowed _ ih => rw [List.filterMap_cons, nothing _ allowed, ih]

namespace Attribute

/-- The name of an attribute for the page's own data, in any case of its first letters. -/
def HoldsData (attr : Attribute) : Prop :=
  ∃ first rest : String, attr.name = first ++ rest ∧
    Text.sameIgnoringCase first dataAttributeStart = true

theorem isData_iff (attr : Attribute) : attr.isData = true ↔ attr.HoldsData :=
  Text.beginsWith_iff

/-- An attribute is known by its table under the element, or else by its table among the global
attributes. -/
def table? (catalog : Catalog) (element : String) (attr : Attribute) : Option SupportTable :=
  (catalog.root.tableAt? (Catalog.elements ++ [element, attr.name])).or
    (catalog.root.tableAt? (Catalog.globalAttributes ++ [attr.name]))

/-- Whether an attribute is the page's own data, or nothing is known of it. -/
def IsLeftAlone (catalog : Catalog) (element : String) (attr : Attribute) : Prop :=
  attr.HoldsData ∨
    catalog.root.tableAt? (Catalog.elements ++ [element, attr.name]) = none ∧
      catalog.root.tableAt? (Catalog.globalAttributes ++ [attr.name]) = none

/-- What a table says of an attribute. -/
def issue (element : String) (targets : List Target) (options : CheckOptions) (attr : Attribute)
    (table : SupportTable) : Issue where
  kind := .elementAttribute
  element := some element
  attributeName := some attr.name
  value := some attr.value
  deprecated := table.standing.deprecated
  experimental := table.standing.experimental
  unsupported := failingTargets table attr.name targets options

end Attribute

section

variable (catalog : Catalog) (targets : List Target) (options : CheckOptions)

/--
What is reported of attributes, one after another: nothing of an attribute that is left alone or has
no problem, and one issue of any other.
-/
inductive AttributesReported (element : String) : List Attribute → List Issue → Prop
  | nil : AttributesReported element [] []
  | leftAlone {attr : Attribute} {attrs : List Attribute} {issues : List Issue}
      (alone : attr.IsLeftAlone catalog element)
      (others : AttributesReported element attrs issues) :
      AttributesReported element (attr :: attrs) issues
  | sound {attr : Attribute} {table : SupportTable} {attrs : List Attribute} {issues : List Issue}
      (checked : ¬attr.HoldsData) (held : attr.table? catalog element = some table)
      (fine : (attr.issue element targets options table).isReportable = false)
      (others : AttributesReported element attrs issues) :
      AttributesReported element (attr :: attrs) issues
  | told {attr : Attribute} {table : SupportTable} {attrs : List Attribute} {issues : List Issue}
      (checked : ¬attr.HoldsData) (held : attr.table? catalog element = some table)
      (problem : (attr.issue element targets options table).isReportable = true)
      (others : AttributesReported element attrs issues) :
      AttributesReported element (attr :: attrs)
        (attr.issue element targets options table :: issues)

variable {catalog targets options} {element : String} {attr : Attribute}

theorem findings_issue {path : List String} {table : SupportTable}
    (held : catalog.root.tableAt? path = some table) (kind : IssueKind) :
    (findings catalog path targets options).issue kind =
      { kind
        deprecated := table.standing.deprecated
        experimental := table.standing.experimental
        unsupported := failingTargets table (path.getLast?.getD "") targets options } := by
  simp only [findings, held]
  rfl

/-- The table of an attribute is the one at the place where the attribute is looked up. -/
theorem table?_eq_bind (attr : Attribute) :
    attr.table? catalog element =
      (attributePath? catalog element attr.name).bind catalog.root.tableAt? := by
  unfold Attribute.table? attributePath? Catalog.hasTable
  cases own : catalog.root.tableAt? (Catalog.elements ++ [element, attr.name]) with
  | some table => simp [own]
  | none =>
    cases shared : catalog.root.tableAt? (Catalog.globalAttributes ++ [attr.name]) <;>
      simp [own, shared]

theorem getLast?_of_attributePath? {name : String} {path : List String}
    (placed : attributePath? catalog element name = some path) : path.getLast?.getD "" = name := by
  have among := List.mem_of_find?_eq_some placed
  simp only [List.mem_cons, List.not_mem_nil, or_false] at among
  obtain rfl | rfl := among <;> simp

theorem attributeIssue?_eq (checked : attr.isData = false) :
    attributeIssue? catalog element attr targets options =
      ((attr.table? catalog element).map (attr.issue element targets options)).filter
        Issue.isReportable := by
  rw [attributeIssue?, checked, table?_eq_bind]
  cases placed : attributePath? catalog element attr.name with
  | none => rfl
  | some path =>
    obtain ⟨table, held⟩ := Option.isSome_iff_exists.mp (hasTable_of_attributePath? placed)
    simp only [findings_issue held, getLast?_of_attributePath? placed, Option.bind_some, held]
    rfl

theorem attributeIssue?_of_isLeftAlone (alone : attr.IsLeftAlone catalog element) :
    attributeIssue? catalog element attr targets options = none := by
  cases data : attr.isData with
  | true => simp [attributeIssue?, data]
  | false =>
    obtain holds | ⟨own, shared⟩ := alone
    · rw [attr.isData_iff.mpr holds] at data
      cases data
    · rw [attributeIssue?_eq data, Attribute.table?, own, shared]
      rfl

theorem attributes_reported (element : String) (attrs : List Attribute) :
    AttributesReported catalog targets options element attrs
      (attrs.filterMap fun attr => attributeIssue? catalog element attr targets options) := by
  induction attrs with
  | nil => exact .nil
  | cons attr attrs ih =>
    rw [List.filterMap_cons]
    -- One case for each constructor: own data, no table, a table that is fine, one that is not.
    by_cases holds : attr.HoldsData
    · rw [attributeIssue?_of_isLeftAlone (.inl holds)]
      exact .leftAlone (.inl holds) ih
    have checked : attr.isData = false := by rwa [Bool.eq_false_iff, ne_eq, attr.isData_iff]
    rw [attributeIssue?_eq checked]
    cases held : attr.table? catalog element with
    | none => exact .leftAlone (.inr (Option.or_eq_none_iff.mp held)) ih
    | some table =>
      cases problem : (attr.issue element targets options table).isReportable with
      | false =>
        simp only [Option.map_some, Option.filter_some, problem]
        exact .sound holds held problem ih
      | true =>
        simp only [Option.map_some, Option.filter_some, problem]
        exact .told holds held problem ih

/-- Attributes that are left alone may stand anywhere among the others. -/
theorem htmlIssues_inserted {name : String} {attrs longer : List Attribute}
    (inserted : Inserted (Attribute.IsLeftAlone catalog name) attrs longer) :
    htmlIssues catalog ⟨name, longer⟩ targets options =
      htmlIssues catalog ⟨name, attrs⟩ targets options := by
  have same : longer.filterMap (attributeIssue? catalog name · targets options) =
      attrs.filterMap (attributeIssue? catalog name · targets options) := by
    apply inserted.filterMap_eq
    intro attr alone
    exact attributeIssue?_of_isLeftAlone alone
  rw [htmlIssues, htmlIssues, same]

/-! Documents of elements. -/

theorem htmlIssuesOfJson_object {item : Json} (object : item.IsObject) {decoded : Element}
    (read : Element.ofJson? item = some decoded) :
    htmlIssuesOfJson catalog item targets options =
      .ok (htmlIssues catalog decoded targets options) := by
  obtain ⟨fields, rfl⟩ := object
  simp [htmlIssuesOfJson, Element.listOfJson?, read]

/-- The issues of a list of objects are those of each object alone, side by side. -/
theorem htmlIssuesOfJson_list {items : List Json} (objects : ∀ item ∈ items, item.IsObject)
    (read : ∀ item ∈ items, (Element.ofJson? item).isSome = true) :
    ∃ parts,
      List.Forall₂ (fun item part => htmlIssuesOfJson catalog item targets options = .ok part)
        items parts ∧
      htmlIssuesOfJson catalog (.list items) targets options = .ok parts.flatten := by
  cases decoded : items.mapM Element.ofJson? with
  | none =>
    obtain ⟨item, member, failed⟩ := Json.mapM_eq_none_iff.mp decoded
    have readable := read item member
    rw [failed] at readable
    cases readable
  | some elements =>
    refine ⟨elements.map (htmlIssues catalog · targets options), ?_, ?_⟩
    · rw [List.forall₂_map_right_iff]
      have each := (List.forall₂_and_left items elements).mpr
        ⟨objects, Json.mapM_eq_some_iff.mp decoded⟩
      exact each.imp fun item element ⟨object, found⟩ => htmlIssuesOfJson_object object found
    · simp [htmlIssuesOfJson, Element.listOfJson?, decoded, List.flatMap]

theorem htmlIssuesOfJson_list_of_failed {items : List Json} {item : Json} (member : item ∈ items)
    (failed : Element.ofJson? item = none) :
    htmlIssuesOfJson catalog (.list items) targets options = .error .malformedJson := by
  have none_decoded := Json.mapM_eq_none_iff.mpr ⟨item, member, failed⟩
  simp [htmlIssuesOfJson, Element.listOfJson?, none_decoded]

end

/--
Elements are checked piece by piece. A list of objects that are elements has the issues of each of
them alone, side by side, and one object that is none makes the whole list fail. An element has its
own issue, if any, and then for each attribute in order at most the one issue that its table gives.
Attributes for the page's own data and unknown attributes may be inserted anywhere.
-/
theorem elements_checked_piecewise (catalog : Catalog) (targets : List Target)
    (options : CheckOptions) :
    (∀ items : List Json, (∀ item ∈ items, item.IsObject) →
      ((∀ item ∈ items, (Element.ofJson? item).isSome = true) → ∃ parts,
        List.Forall₂ (fun item part => htmlIssuesOfJson catalog item targets options = .ok part)
          items parts ∧
        htmlIssuesOfJson catalog (.list items) targets options = .ok parts.flatten) ∧
      ((∃ item ∈ items, Element.ofJson? item = none) →
        htmlIssuesOfJson catalog (.list items) targets options = .error .malformedJson)) ∧
    (∀ element : Element, ∃ issues,
      AttributesReported catalog targets options element.name element.attributes issues ∧
      htmlIssues catalog element targets options =
        (elementIssue? catalog element.name targets options).toList ++ issues) ∧
    ∀ (name : String) (attrs longer : List Attribute),
      Inserted (Attribute.IsLeftAlone catalog name) attrs longer →
        htmlIssues catalog ⟨name, longer⟩ targets options =
          htmlIssues catalog ⟨name, attrs⟩ targets options := by
  refine ⟨fun items objects => ⟨htmlIssuesOfJson_list objects, ?_⟩, fun element => ?_,
    fun name attrs longer inserted => htmlIssues_inserted inserted⟩
  · rintro ⟨item, member, failed⟩
    exact htmlIssuesOfJson_list_of_failed member failed
  · exact ⟨_, attributes_reported element.name element.attributes, rfl⟩

namespace Catalog

/-- A known attribute of a known element, and an element without attributes. -/
def varietyItems : List Json :=
  [.object [("element", .text "dialog"), ("attributes", .list [.object [("name", .text "open")]])],
    .object [("element", .text "blink")]]

theorem elements_checked_piecewise_variety :
    (∃ parts,
      List.Forall₂ (fun item part => htmlIssuesOfJson varietyCatalog item [firefox10] {} = .ok part)
        varietyItems parts ∧
      htmlIssuesOfJson varietyCatalog (.list varietyItems) [firefox10] {} = .ok parts.flatten) ∧
    htmlIssuesOfJson varietyCatalog (.list (.object [("name", .text "p")] :: varietyItems))
      [firefox10] {} = .error .malformedJson ∧
    htmlIssues varietyCatalog
        ⟨"dialog", [{ name := "DATA-open" }, { name := "open" }, { name := "donné" }]⟩
        [firefox10] {} =
      htmlIssues varietyCatalog ⟨"dialog", [{ name := "open" }]⟩ [firefox10] {} := by
  obtain ⟨documents, _, insertions⟩ := elements_checked_piecewise varietyCatalog [firefox10] {}
  have objects : ∀ item ∈ varietyItems, item.IsObject := by simp [varietyItems, Json.IsObject]
  have longer : ∀ item ∈ .object [("name", .text "p")] :: varietyItems, item.IsObject :=
    List.forall_mem_cons.mpr ⟨⟨_, rfl⟩, objects⟩
  have data : Attribute.IsLeftAlone varietyCatalog "dialog" { name := "DATA-open" } :=
    .inl ⟨"DATA-", "open", by decide, by decide⟩
  have unknown : Attribute.IsLeftAlone varietyCatalog "dialog" { name := "donné" } :=
    .inr (by decide +kernel)
  refine ⟨(documents varietyItems objects).1 (List.all_eq_true.mp (by decide)),
    (documents _ longer).2 ⟨_, List.mem_cons_self, rfl⟩,
    insertions _ _ _ (.added data (.kept _ (.added unknown .nil)))⟩

/-- The second element is unknown; the attribute of the first is told of behind the element. -/
example :
    (htmlIssuesOfJson varietyCatalog (.list varietyItems) [firefox10] {}).toOption.map
        (List.map Issue.subject) =
      some ["<dialog>", "<dialog open>", "<blink>"] := by
  decide +kernel

end Catalog

end Portability
