import Portability.Proofs.Check.Priority
import Portability.Proofs.Check.Verdict
import Portability.Proofs.Text.LowerCase

/-!
# Components in another spelling

The letter case of a component plays no part in what is said of it, and neither does the spelling of
its property. Every comparison that a verdict rests on is made up to the case of ASCII letters, or
of lower-case forms, so each place that is tried for one spelling is tried for the other, at the
same rank. Two traces of the spelling remain: the term that the verdict names, and the property's
name in a place below it.
-/
namespace Portability

/--
Whether two components are of one kind, with names that differ at most in the case of ASCII letters.
Of numbers only bare ones are told apart by their value.
-/
inductive Component.Respelled : Component → Component → Prop
  | ident {name other : String} (same : Text.sameIgnoringCase name other = true) :
      Respelled (.ident name) (.ident other)
  | text {content other : String} (same : Text.sameIgnoringCase content other = true) :
      Respelled (.text content) (.text other)
  | url {address other : String} (same : Text.sameIgnoringCase address other = true) :
      Respelled (.url address) (.url other)
  | number (value : Float) : Respelled (.number value) (.number value)
  | percentage (ratio other : Float) : Respelled (.percentage ratio) (.percentage other)
  | dimension (value another : Float) {unit other : String}
      (same : Text.sameIgnoringCase unit other = true) :
      Respelled (.dimension value unit) (.dimension another other)
  | function {name other : String} (same : Text.sameIgnoringCase name other = true)
      (contents others : List Component) :
      Respelled (.function name contents) (.function other others)
  | symbol (c d : Char) : Respelled (.symbol c) (.symbol d)

namespace Verdict

variable {catalog : Catalog} {property other term : String} {component respelled : Component}

/-- The same verdict on a component in another spelling. -/
def retermed (term : String) : Verdict → Verdict
  | .listed _ place => .listed term place
  | verdict => verdict

theorem exists_typeKey? (spelled : component.Respelled respelled) {key : String}
    (keyed : component.typeKey? = some key) :
    ∃ other, respelled.typeKey? = some other ∧ Text.sameIgnoringCase key other = true := by
  cases spelled with
  | ident same | text same | url same | dimension _ _ same | function same =>
    cases keyed
    exact ⟨_, rfl, same⟩
  | number value =>
    cases keyed
    exact ⟨_, rfl, Text.sameIgnoringCase_refl _⟩
  | percentage =>
    cases keyed
    exact ⟨_, rfl, Text.sameIgnoringCase_refl _⟩
  | symbol => cases keyed

theorem isZero_respelled (spelled : component.Respelled respelled) :
    isZero respelled = isZero component := by
  cases spelled <;> rfl

theorem isSafe_respelled (spelled : component.Respelled respelled) {key other : String}
    (same : Text.sameIgnoringCase key other = true) (dataTypes : List String) :
    isSafe dataTypes other respelled = isSafe dataTypes key component := by
  unfold isSafe
  rw [isZero_respelled spelled, Text.lowerCase_eq_of_sameIgnoringCase same]

/-- A component in another letter case has the same candidates, at the same ranks. -/
theorem candidate_recased_iff {node : Node} {path place : List String} {key other : String}
    {rank : Nat} (same : Text.sameIgnoringCase key other = true) :
    Candidate catalog node path other rank place ↔ Candidate catalog node path key rank place := by
  have lowered := Text.lowerCase_eq_of_sameIgnoringCase same
  -- A search goes by the lower-case form, a comparison with a data type by the ASCII letters.
  cases rank with
  | zero => rw [candidate_zero_iff, candidate_zero_iff, Node.pathTo?, Node.pathTo?, lowered]
  | succ rank =>
    have placed (dataType : String) :
        placeInType? catalog other dataType = placeInType? catalog key dataType := by
      simp only [placeInType?, placeBelow?, Node.pathTo?, Text.sameIgnoringCase_congr same, lowered]
    simp only [candidate_succ_iff, placed]

theorem Warranted.retermed {verdict : Verdict}
    (warranted : Warranted catalog property component verdict)
    (spelled : component.Respelled respelled) :
    Warranted catalog property respelled (verdict.retermed respelled.term) := by
  cases warranted with
  | symbol mark =>
    subst mark
    cases spelled
    exact .symbol rfl
  | unknown missing => exact .unknown missing
  | safe keyed arrived known =>
    obtain ⟨key, keyed', same⟩ := exists_typeKey? spelled keyed
    rw [← isSafe_respelled spelled same] at known
    exact .safe keyed' arrived known
  | listed keyed arrived doubtful candidate tabled first =>
    obtain ⟨key, keyed', same⟩ := exists_typeKey? spelled keyed
    rw [← isSafe_respelled spelled same] at doubtful
    refine .listed keyed' arrived doubtful ((candidate_recased_iff same).mpr candidate) tabled ?_
    intro earlier place less candidate'
    exact first earlier place less ((candidate_recased_iff same).mp candidate')
  | unlisted keyed arrived doubtful bare =>
    obtain ⟨key, keyed', same⟩ := exists_typeKey? spelled keyed
    rw [← isSafe_respelled spelled same] at doubtful
    refine .unlisted keyed' arrived doubtful ?_
    intro rank place candidate
    exact bare rank place ((candidate_recased_iff same).mp candidate)

theorem of_respelled (spelled : component.Respelled respelled) :
    of catalog property respelled = (of catalog property component).retermed respelled.term :=
  of_eq_iff.mpr ((warranted_of catalog property component).retermed spelled)

/--
Whether two verdicts say the same of two components, in the values of a property under two spellings.
If they say where the components are listed, each has its own component's term, and their places
have one table and differ at most in the spelling of the property.
-/
inductive Agrees (catalog : Catalog) (property other : String) (component respelled : Component) :
    Verdict → Verdict → Prop
  | safe : Agrees catalog property other component respelled .safe .safe
  | unverifiable : Agrees catalog property other component respelled .unverifiable .unverifiable
  | listed {place restyled : List String} {table : SupportTable}
      (places : place = restyled ∨ ∃ rest, place = Catalog.properties ++ [property] ++ rest ∧
        restyled = Catalog.properties ++ [other] ++ rest)
      (here : catalog.root.tableAt? place = some table)
      (there : catalog.root.tableAt? restyled = some table) :
      Agrees catalog property other component respelled (.listed component.term place)
        (.listed respelled.term restyled)

/--
Two spellings of a property that lead to one node, and two spellings of a component: the verdicts
agree.
-/
theorem of_agrees
    (same : catalog.root.at? (Catalog.properties ++ [property]) =
      catalog.root.at? (Catalog.properties ++ [other]))
    (spelled : component.Respelled respelled) :
    Agrees catalog property other component respelled (of catalog property component)
      (of catalog other respelled) := by
  -- The two spellings change one after the other: that of the component, then the property's.
  have follows := of_follows same respelled
  have recast : of catalog property respelled =
      (of catalog property component).retermed respelled.term := of_respelled spelled
  rw [recast] at follows
  have warranted := warranted_of catalog property component
  generalize of catalog property component = verdict at warranted follows ⊢
  generalize of catalog other respelled = restyled at follows ⊢
  cases warranted with
  | symbol | unknown | unlisted =>
    cases follows
    exact .unverifiable
  | safe =>
    cases follows
    exact .safe
  | @listed _ _ _ place _ _ _ _ tabled _ =>
    obtain ⟨table, held⟩ := Option.isSome_iff_exists.mp tabled
    generalize said : retermed respelled.term (.listed component.term place) = verdict at follows
    cases follows with
    | same =>
      cases said
      exact .listed (.inl rfl) held held
    | @below _ rest inhabited =>
      cases said
      -- The rest of the way begins at the node that both spellings lead to.
      refine .listed (.inr ⟨rest, rfl, rfl⟩) held ?_
      rw [Node.tableAt?_append, ← same, ← Node.tableAt?_append]
      exact held

/-- A keyword below a property, in capitals, and the property under the spelling with a prefix. -/
theorem of_agrees_fallbacks :
    fallbackCatalog.root.at? (Catalog.properties ++ ["-Webkit-WIDTH"]) =
      fallbackCatalog.root.at? (Catalog.properties ++ ["width"]) ∧
    Component.Respelled (.ident "FIT-content") (.ident "fit-Content") ∧
    Agrees fallbackCatalog "-Webkit-WIDTH" "width" (.ident "FIT-content") (.ident "fit-Content")
      (.listed "FIT-content" ["css", "properties", "-Webkit-WIDTH", "fit-content"])
      (.listed "fit-Content" ["css", "properties", "width", "fit-content"]) := by
  have same : fallbackCatalog.root.at? (Catalog.properties ++ ["-Webkit-WIDTH"]) =
      fallbackCatalog.root.at? (Catalog.properties ++ ["width"]) := by decide
  have spelled : Component.Respelled (.ident "FIT-content") (.ident "fit-Content") :=
    .ident (by decide)
  have agreed := of_agrees same spelled
  rw [show of fallbackCatalog "-Webkit-WIDTH" (.ident "FIT-content") =
      .listed "FIT-content" ["css", "properties", "-Webkit-WIDTH", "fit-content"] by decide,
    show of fallbackCatalog "width" (.ident "fit-Content") =
      .listed "fit-Content" ["css", "properties", "width", "fit-content"] by decide] at agreed
  exact ⟨same, spelled, agreed⟩

end Verdict

end Portability
