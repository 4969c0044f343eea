import Portability.Proofs.Decimal.Order
import Portability.Proofs.Support.Spellings

/-!
# Support in later versions

Where nothing is ever removed, a term that some version of a browser supports is supported by every
later version. Only records that apply to the spelling have to last; the others may end at any time.
A version without a number is not later than any, and a version behind all numbers is not covered
even by a range that never ends.
-/
namespace Portability

/-- A range without an end that covers a version covers all finite versions from there on. -/
theorem SupportRecord.covers_of_le {record : SupportRecord} {earlier later : Float}
    (ordered : earlier ≤ later) (finite : later.isFinite = true)
    (lasting : record.removed = .absent) (covered : record.covers earlier = true) :
    record.covers later = true := by
  unfold covers at covered
  rw [Bool.or_eq_true, Bool.and_eq_true, Bool.and_eq_true] at covered
  obtain always | ⟨since, _⟩ := covered
  · unfold covers
    rw [always.1, always.2]
    rfl
  · have begun : record.added.number ≤ later :=
      Decimal.le_of_le_of_le (of_decide_eq_true since) ordered
    have unended : later < record.removed.number := by
      rw [lasting]
      exact Decimal.lt_infinity_of_isFinite finite
    exact covers_of_range begun unended

/-- Support means that there is a table with records of the browser, one of which applies. -/
theorem exists_of_supportState_eq_supported {table : Option SupportTable}
    {browser version spelling : String}
    (supported : supportState table browser version spelling = .supported) :
    ∃ held ∈ table, ∃ records ∈ held.records? browser, ∃ record ∈ records,
      record.vendor = vendorPrefix? spelling ∧ record.covers (versionNumber version) = true := by
  cases table with
  | none => cases supported
  | some held =>
    cases known : held.records? browser with
    | none =>
      unfold supportState at supported
      dsimp only at supported
      rw [known] at supported
      cases supported
    | some records =>
      exact ⟨held, rfl, records, known, (supportState_eq_supported_iff known).mp supported⟩

/-- Support is monotone in the version if no record that applies to the spelling has an end. -/
theorem supportState_monotone {table : Option SupportTable}
    {browser earlier later spelling : String}
    (ordered : versionNumber earlier ≤ versionNumber later)
    (finite : (versionNumber later).isFinite = true)
    (lasting : ∀ held ∈ table, ∀ records ∈ held.records? browser, ∀ record ∈ records,
      record.vendor = vendorPrefix? spelling → record.removed = .absent)
    (supported : supportState table browser earlier spelling = .supported) :
    supportState table browser later spelling = .supported := by
  obtain ⟨held, rfl, records, known, record, member, applies, covered⟩ :=
    exists_of_supportState_eq_supported supported
  apply (supportState_eq_supported_iff known).mpr
  have unended := lasting held rfl records known record member applies
  exact ⟨record, member, applies, record.covers_of_le ordered finite unended covered⟩

/-- A range with an end, but only for the spelling with a prefix. -/
def gridTable : SupportTable :=
  { support := [
      ("firefox", [{ added := .version "52" },
        { added := .version "40", removed := .version "53", vendor := some "-moz-" }])] }

theorem supportState_monotone_grid :
    versionNumber "52.1.9" ≤ versionNumber "+119 beta" ∧
    supportState (some gridTable) "firefox" "52.1.9" "grid" = .supported ∧
    supportState (some gridTable) "firefox" "+119 beta" "grid" = .supported := by
  have ordered : versionNumber "52.1.9" ≤ versionNumber "+119 beta" := by decide
  have supported : supportState (some gridTable) "firefox" "52.1.9" "grid" = .supported := by
    decide
  refine ⟨ordered, supported, supportState_monotone ordered (by decide) ?_ supported⟩
  decide

end Portability
