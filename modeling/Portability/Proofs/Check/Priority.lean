import Portability.Check.Verdict
import Portability.Proofs.Catalog.Search

/-!
# The order in which places are tried

A component may be listed in several places of the catalog: below its property, as one of the
property's data types, or below one of these. Each place has a rank. A place that has no support
table is passed over, whether it is the only one or not, so what counts is the place with a table
that has the least rank. Components that every browser supports are not looked for in any place.
-/
namespace Portability.Verdict

/--
The places where a component with a key may be listed for a property, by rank: at most one below
the property, and at most one for each of its data types.
-/
inductive Candidate (catalog : Catalog) (property : Node) (propertyPath : List String)
    (key : String) : Nat → List String → Prop
  | ofProperty {rest : List String} {found : Node}
      (first : Node.FirstAmong property.children (Text.lowerCase key) rest found) :
      Candidate catalog property propertyPath key 0 (propertyPath ++ rest)
  | ofType {rank : Nat} {dataType : String}
      (declared : property.dataTypes[rank]? = some dataType)
      (same : Text.sameIgnoringCase key dataType = true) :
      Candidate catalog property propertyPath key (rank + 1) (Catalog.types ++ [dataType])
  | ofPart {rank : Nat} {dataType : String} {node found : Node} {rest : List String}
      (declared : property.dataTypes[rank]? = some dataType)
      (different : Text.sameIgnoringCase key dataType = false)
      (arrived : catalog.root.at? (Catalog.types ++ [dataType]) = some node)
      (first : Node.FirstAmong node.children (Text.lowerCase key) rest found) :
      Candidate catalog property propertyPath key (rank + 1)
        (Catalog.types ++ [dataType] ++ rest)

/-- What there is to say of a component in the value of a property, case by case. -/
inductive Warranted (catalog : Catalog) (property : String) (component : Component) :
    Verdict → Prop
  | symbol {c : Char} (mark : component = .symbol c) :
      Warranted catalog property component .unverifiable
  | unknown (missing : catalog.root.at? (Catalog.properties ++ [property]) = none) :
      Warranted catalog property component .unverifiable
  | safe {key : String} {node : Node} (keyed : component.typeKey? = some key)
      (arrived : catalog.root.at? (Catalog.properties ++ [property]) = some node)
      (known : isSafe node.dataTypes key component = true) :
      Warranted catalog property component .safe
  | listed {key : String} {node : Node} {rank : Nat} {place : List String}
      (keyed : component.typeKey? = some key)
      (arrived : catalog.root.at? (Catalog.properties ++ [property]) = some node)
      (doubtful : isSafe node.dataTypes key component = false)
      (candidate : Candidate catalog node (Catalog.properties ++ [property]) key rank place)
      (tabled : catalog.hasTable place = true)
      (first : ∀ earlier other, earlier < rank →
        Candidate catalog node (Catalog.properties ++ [property]) key earlier other →
          catalog.hasTable other = false) :
      Warranted catalog property component (.listed component.term place)
  | unlisted {key : String} {node : Node} (keyed : component.typeKey? = some key)
      (arrived : catalog.root.at? (Catalog.properties ++ [property]) = some node)
      (doubtful : isSafe node.dataTypes key component = false)
      (bare : ∀ rank place,
        Candidate catalog node (Catalog.properties ++ [property]) key rank place →
          catalog.hasTable place = false) :
      Warranted catalog property component .unverifiable

variable {catalog : Catalog} {node : Node} {path place other : List String} {key : String}

/-! The candidates of each rank are the places that are tried. -/

theorem placeBelow?_eq_some_iff :
    placeBelow? catalog path key = some place ↔
      ∃ node rest, catalog.root.at? path = some node ∧ node.pathTo? key = some rest ∧
        path ++ rest = place := by
  simp [placeBelow?, Option.bind_eq_some_iff]

theorem candidate_zero_iff :
    Candidate catalog node path key 0 place ↔
      (node.pathTo? key).map (path ++ ·) = some place := by
  rw [Option.map_eq_some_iff]
  constructor
  · intro candidate
    cases candidate with
    | ofProperty first => exact ⟨_, Node.pathTo?_eq_some_iff.mpr ⟨_, first⟩, rfl⟩
  · rintro ⟨rest, searched, rfl⟩
    obtain ⟨found, first⟩ := Node.pathTo?_eq_some_iff.mp searched
    exact .ofProperty first

theorem candidate_succ_iff {rank : Nat} :
    Candidate catalog node path key (rank + 1) place ↔
      ∃ dataType, node.dataTypes[rank]? = some dataType ∧
        placeInType? catalog key dataType = some place := by
  constructor
  · intro candidate
    cases candidate with
    | @ofType _ dataType declared same =>
      exact ⟨dataType, declared, by simp [placeInType?, same]⟩
    | @ofPart _ dataType inner found rest declared different arrived first =>
      refine ⟨dataType, declared, ?_⟩
      simp only [placeInType?, different, Bool.false_eq_true, if_false]
      apply placeBelow?_eq_some_iff.mpr
      exact ⟨inner, rest, arrived, Node.pathTo?_eq_some_iff.mpr ⟨found, first⟩, rfl⟩
  · rintro ⟨dataType, declared, placed⟩
    unfold placeInType? at placed
    split at placed
    next same =>
      cases placed
      exact .ofType declared same
    next different =>
      obtain ⟨inner, rest, arrived, searched, rfl⟩ := placeBelow?_eq_some_iff.mp placed
      obtain ⟨found, first⟩ := Node.pathTo?_eq_some_iff.mp searched
      exact .ofPart declared (by simpa using different) arrived first

theorem Candidate.unique {rank : Nat} (one : Candidate catalog node path key rank place)
    (two : Candidate catalog node path key rank other) : place = other := by
  cases rank with
  | zero => exact Option.some.inj ((candidate_zero_iff.mp one).symm.trans (candidate_zero_iff.mp two))
  | succ rank =>
    obtain ⟨dataType, declared, placed⟩ := candidate_succ_iff.mp one
    obtain ⟨dataType', declared', placed'⟩ := candidate_succ_iff.mp two
    rw [declared] at declared'
    cases declared'
    exact Option.some.inj (placed.symm.trans placed')

/-- Either no place has a table, or the first that has one is taken. -/
theorem place?_ranked (catalog : Catalog) (node : Node) (path : List String) (key : String) :
    (place? catalog node path key = none ∧
      ∀ rank place, Candidate catalog node path key rank place → catalog.hasTable place = false) ∨
    ∃ rank place, place? catalog node path key = some place ∧
      Candidate catalog node path key rank place ∧ catalog.hasTable place = true ∧
      ∀ earlier other, earlier < rank → Candidate catalog node path key earlier other →
        catalog.hasTable other = false := by
  unfold place?
  dsimp only
  cases below : ((node.pathTo? key).map (path ++ ·)).filter catalog.hasTable with
  | some place =>
    right
    obtain ⟨searched, tabled⟩ := Option.filter_eq_some_iff.mp below
    refine ⟨0, place, rfl, candidate_zero_iff.mpr searched, tabled, ?_⟩
    intro earlier other less
    exact absurd less (Nat.not_lt_zero earlier)
  | none =>
    -- The place of rank zero is out, and the others follow the data types.
    have zero : ∀ other, Candidate catalog node path key 0 other →
        catalog.hasTable other = false := by
      intro other candidate
      have missed := Option.filter_eq_none_iff.mp below other (candidate_zero_iff.mp candidate)
      simpa using missed
    dsimp only
    cases listed : node.dataTypes.findSome? fun dataType =>
        (placeInType? catalog key dataType).filter catalog.hasTable with
    | none =>
      left
      refine ⟨rfl, fun rank other candidate => ?_⟩
      cases rank with
      | zero => exact zero other candidate
      | succ rank =>
        obtain ⟨dataType, declared, placed⟩ := candidate_succ_iff.mp candidate
        have missed := List.findSome?_eq_none_iff.mp listed dataType
          (List.mem_of_getElem? declared)
        simpa using Option.filter_eq_none_iff.mp missed other placed
    | some place =>
      right
      obtain ⟨before, dataType, behind, split, found, missed⟩ :=
        List.findSome?_eq_some_iff.mp listed
      -- The data types of lesser rank are those in `before`, and their places have no tables.
      obtain ⟨placed, tabled⟩ := Option.filter_eq_some_iff.mp found
      refine ⟨before.length + 1, place, rfl, candidate_succ_iff.mpr ⟨dataType, ?_, placed⟩, tabled,
        fun earlier other less candidate => ?_⟩
      · rw [split]
        simp
      · cases earlier with
        | zero => exact zero other candidate
        | succ earlier =>
          obtain ⟨dataType', declared', placed'⟩ := candidate_succ_iff.mp candidate
          rw [split, List.getElem?_append_left (Nat.lt_of_succ_lt_succ less)] at declared'
          have nothing := missed dataType' (List.mem_of_getElem? declared')
          simpa using Option.filter_eq_none_iff.mp nothing other placed'

theorem place?_eq_none (bare : ∀ rank place, Candidate catalog node path key rank place →
    catalog.hasTable place = false) : place? catalog node path key = none := by
  rcases place?_ranked catalog node path key with ⟨nothing, _⟩ | ⟨rank, place, _, held, tabled, _⟩
  · exact nothing
  · rw [bare rank place held] at tabled
    cases tabled

theorem place?_eq_some {rank : Nat} (candidate : Candidate catalog node path key rank place)
    (tabled : catalog.hasTable place = true)
    (first : ∀ earlier other, earlier < rank → Candidate catalog node path key earlier other →
      catalog.hasTable other = false) : place? catalog node path key = some place := by
  rcases place?_ranked catalog node path key with
    ⟨_, bare⟩ | ⟨rank', place', placed, candidate', tabled', first'⟩
  · rw [bare rank place candidate] at tabled
    cases tabled
  · -- Of two places with tables each has the least rank, so the ranks are the same.
    rcases Nat.lt_trichotomy rank rank' with less | same | more
    · rw [first' rank place less candidate] at tabled
      cases tabled
    · subst same
      rw [placed, candidate.unique candidate']
    · rw [first rank' place' more candidate'] at tabled'
      cases tabled'

/-! The verdict is the one that is warranted, and there is no other. -/

theorem typeKey?_eq_none_iff {component : Component} :
    component.typeKey? = none ↔ ∃ c, component = .symbol c := by
  cases component <;> simp [Component.typeKey?]

theorem warranted_of (catalog : Catalog) (property : String) (component : Component) :
    Warranted catalog property component (of catalog property component) := by
  unfold of
  dsimp only
  cases keyed : component.typeKey? with
  | none =>
    obtain ⟨c, mark⟩ := typeKey?_eq_none_iff.mp keyed
    exact .symbol mark
  | some key =>
    cases arrived : catalog.root.at? (Catalog.properties ++ [property]) with
    | none => exact .unknown arrived
    | some node =>
      dsimp only
      split
      next known => exact .safe keyed arrived known
      next doubtful =>
        rw [Bool.not_eq_true] at doubtful
        rcases place?_ranked catalog node (Catalog.properties ++ [property]) key with
          ⟨nothing, bare⟩ | ⟨rank, place, placed, candidate, tabled, first⟩
        · rw [nothing]
          exact .unlisted keyed arrived doubtful bare
        · rw [placed]
          exact .listed keyed arrived doubtful candidate tabled first

theorem of_eq_iff {property : String} {component : Component} {verdict : Verdict} :
    of catalog property component = verdict ↔ Warranted catalog property component verdict := by
  constructor
  · rintro rfl
    exact warranted_of catalog property component
  · intro warranted
    cases warranted with
    | symbol mark =>
      subst mark
      rfl
    | unknown missing =>
      unfold of
      dsimp only
      rw [missing]
      cases component.typeKey? <;> rfl
    | safe keyed arrived known => simp [of, keyed, arrived, known]
    | listed keyed arrived doubtful candidate tabled first =>
      simp [of, keyed, arrived, doubtful, place?_eq_some candidate tabled first]
    | unlisted keyed arrived doubtful bare =>
      simp [of, keyed, arrived, doubtful, place?_eq_none bare]

theorem hasTable_of_listed {property term : String} {component : Component}
    (said : of catalog property component = .listed term place) :
    catalog.hasTable place = true := by
  cases of_eq_iff.mp said with
  | listed _ _ _ _ tabled _ => exact tabled

theorem of_eq_safe_iff {property : String} {component : Component}
    (arrived : catalog.root.at? (Catalog.properties ++ [property]) = some node) :
    of catalog property component = .safe ↔
      ∃ key, component.typeKey? = some key ∧ isSafe node.dataTypes key component = true := by
  rw [of_eq_iff]
  constructor
  · intro warranted
    cases warranted with
    | @safe key node' keyed arrived' known =>
      rw [arrived] at arrived'
      cases arrived'
      exact ⟨key, keyed, known⟩
  · rintro ⟨key, keyed, known⟩
    exact .safe keyed arrived known

/--
The verdict on a component is the one that is warranted: safe by the data types of its property
alone, whatever else a catalog holds; else listed in the first place that has a table, if any has
one. So where a component is said to be listed there is a table.
-/
theorem of_follows_priority (catalog : Catalog) (property : String) (component : Component) :
    (∀ verdict, of catalog property component = verdict ↔
      Warranted catalog property component verdict) ∧
    (∀ term place, of catalog property component = .listed term place →
      ∃ table, catalog.root.tableAt? place = some table) ∧
    ∀ (other : Catalog) (node twin : Node),
      catalog.root.at? (Catalog.properties ++ [property]) = some node →
      other.root.at? (Catalog.properties ++ [property]) = some twin →
      twin.dataTypes = node.dataTypes →
        (of catalog property component = .safe ↔ of other property component = .safe) := by
  refine ⟨fun verdict => of_eq_iff, fun term place said => ?_, ?_⟩
  · exact Option.isSome_iff_exists.mp (hasTable_of_listed said)
  · intro other node twin arrived arrived' types
    rw [of_eq_safe_iff arrived, of_eq_safe_iff arrived', types]

/--
A snapshot with a keyword that is found below its property and below the first data type, without a
table in either place, and below the second data type with one.
-/
def fallbacks : Json :=
  let compat : String × Json := ("__compat", .object [("support", .object [("chrome", .list [
    .object [("version_added", .text "46")],
    .object [("version_added", .text "25"), ("prefix", .text "-webkit-")]])])])
  .object [("css", .object [
    ("properties", .object [
      ("width", .object [compat, ("auto", .object []), ("fit-content", .object [compat])])]),
    ("types", .object [
      ("global_keywords", .object [("auto", .object [])]),
      ("length", .object [("relative", .object [("auto", .object [compat])])])])])]

/-- A snapshot that has the property and nothing else. -/
def bareProperty : Json :=
  .object [("css", .object [("properties", .object [("width", .object [])])])]

theorem isSome_fallbacks : (Catalog.ofJson fallbacks).toOption.isSome = true := by decide

def fallbackCatalog : Catalog := (Catalog.ofJson fallbacks).toOption.get isSome_fallbacks

theorem isSome_bareProperty : (Catalog.ofJson bareProperty).toOption.isSome = true := by decide

def bareCatalog : Catalog := (Catalog.ofJson bareProperty).toOption.get isSome_bareProperty

theorem of_follows_priority_fallbacks :
    Warranted fallbackCatalog "-webkit-width" (.ident "Auto")
      (.listed "Auto" ["css", "types", "length", "relative", "auto"]) ∧
    (∃ table, fallbackCatalog.root.tableAt? ["css", "types", "length", "relative", "auto"] =
      some table) ∧
    (of fallbackCatalog "width" (.ident "Inherit") = .safe ↔
      of bareCatalog "width" (.ident "Inherit") = .safe) := by
  have said : of fallbackCatalog "-webkit-width" (.ident "Auto") =
      .listed "Auto" ["css", "types", "length", "relative", "auto"] := by decide
  obtain ⟨priority, tabled, _⟩ :=
    of_follows_priority fallbackCatalog "-webkit-width" (.ident "Auto")
  obtain ⟨_, _, safe⟩ := of_follows_priority fallbackCatalog "width" (.ident "Inherit")
  refine ⟨(priority _).mp said, tabled _ _ said, ?_⟩
  exact safe bareCatalog
    ((fallbackCatalog.root.at? (Catalog.properties ++ ["width"])).get (by decide))
    ((bareCatalog.root.at? (Catalog.properties ++ ["width"])).get (by decide))
    (Option.some_get _).symm (Option.some_get _).symm (by decide)

end Portability.Verdict
