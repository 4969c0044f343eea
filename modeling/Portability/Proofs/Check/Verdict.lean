import Portability.Check.Verdict
import Portability.Proofs.Catalog.Search

/-!
# Verdicts under several spellings of a property

What the catalog says of a component hangs on the node that the property leads to, and not on how
the property is spelled. Only the path to the component keeps the spelling, if that is listed below
the property; then the rest of the path is the same for all spellings.
-/
namespace Portability

namespace Verdict

/-- Whether two verdicts are the same up to how the property is spelled in the path. -/
inductive Follows (property other : String) : Verdict → Verdict → Prop
  | same (verdict : Verdict) : Follows property other verdict verdict
  | below {term : String} {rest : List String} (inhabited : rest ≠ []) :
      Follows property other (.listed term (Catalog.properties ++ [property] ++ rest))
        (.listed term (Catalog.properties ++ [other] ++ rest))

/-- A component is listed below one spelling just if it is listed below the other. -/
theorem place?_cases (catalog : Catalog) (node : Node) {path other : List String} (key : String)
    (same : catalog.root.at? path = catalog.root.at? other) :
    place? catalog node path key = place? catalog node other key ∨
      ∃ rest ≠ [], place? catalog node path key = some (path ++ rest) ∧
        place? catalog node other key = some (other ++ rest) := by
  unfold place?
  cases found : node.pathTo? key with
  | none => exact .inl rfl
  | some rest =>
    have tabled : catalog.hasTable (path ++ rest) = catalog.hasTable (other ++ rest) := by
      unfold Catalog.hasTable
      rw [Node.tableAt?_append, Node.tableAt?_append, same]
    cases listed : catalog.hasTable (other ++ rest) with
    | true =>
      refine .inr ⟨rest, Node.ne_nil_of_pathTo? found, ?_, ?_⟩ <;>
        simp [Option.filter, tabled, listed]
    | false =>
      left
      simp [Option.filter, tabled, listed]

/-- Spellings of a property that lead to one node get one verdict. -/
theorem of_follows {catalog : Catalog} {property other : String}
    (same : catalog.root.at? (Catalog.properties ++ [property]) =
      catalog.root.at? (Catalog.properties ++ [other])) (component : Component) :
    Follows property other (of catalog property component) (of catalog other component) := by
  unfold of
  dsimp only
  rw [same]
  cases component.typeKey? with
  | none => exact .same _
  | some key =>
    cases catalog.root.at? (Catalog.properties ++ [other]) with
    | none => exact .same _
    | some node =>
      dsimp only
      split
      · exact .same _
      · rcases place?_cases catalog node key same with equal | ⟨rest, inhabited, here, there⟩
        · rw [equal]
          exact .same _
        · rw [here, there]
          exact .below inhabited

end Verdict

end Portability
