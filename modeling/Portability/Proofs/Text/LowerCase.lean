import Portability.Text.Ascii
import Portability.Text.LowerCase

/-!
# Lower-casing and the case of ASCII letters

Two notions of case meet in lookups: some names are compared up to the case of ASCII letters, and
terms are found under their lower-case form. Texts that differ only in the case of ASCII letters
have the same lower-case form, since those letters are cased letters in both cases and nothing else
in the rules of lower-casing tells them apart.
-/
namespace Portability.Text

theorem toLower_of_not_upper {c : Char} (other : ¬(65 ≤ c.toNat ∧ c.toNat ≤ 90)) :
    c.toLower = c := by
  unfold Char.toLower
  rw [dif_neg]
  simpa [UInt32.le_iff_toNat_le] using other

/-- What does not change with the case of the twenty-six letters does not change with case. -/
theorem apply_toLower {α : Type} (property : Char → α)
    (letters : ∀ n ∈ List.range' 65 26,
      property (Char.ofNat n).toLower = property (Char.ofNat n)) (c : Char) :
    property c.toLower = property c := by
  by_cases upper : 65 ≤ c.toNat ∧ c.toNat ≤ 90
  · have member : c.toNat ∈ List.range' 65 26 := by
      rw [List.mem_range'_1]
      omega
    simpa using letters c.toNat member
  · rw [toLower_of_not_upper upper]

theorem casedAhead_map_toLower (text : List Char) :
    casedAhead (text.map Char.toLower) = casedAhead text := by
  have same : isCaseIgnorable ∘ Char.toLower = isCaseIgnorable :=
    funext (apply_toLower isCaseIgnorable (by decide +kernel))
  unfold casedAhead
  rw [List.dropWhile_map, same]
  cases text.dropWhile isCaseIgnorable with
  | nil => rfl
  | cons c rest => exact apply_toLower isCased (by decide +kernel) c

theorem lowerChars_map_toLower (before text : List Char) :
    lowerChars (before.map Char.toLower) (text.map Char.toLower) = lowerChars before text := by
  induction text generalizing before with
  | nil => rfl
  | cons c rest ih =>
    have later := ih (c :: before)
    rw [List.map_cons] at later
    simp only [List.map_cons, lowerChars, casedAhead_map_toLower, later,
      apply_toLower (· == 'Σ') (by decide) c, apply_toLower (· == 'İ') (by decide) c,
      apply_toLower lowerChar (by decide) c]

theorem sameIgnoringCase_iff {left right : String} :
    sameIgnoringCase left right = true ↔
      left.toList.map Char.toLower = right.toList.map Char.toLower := by
  simp [sameIgnoringCase]

theorem sameIgnoringCase_refl (text : String) : sameIgnoringCase text text = true :=
  sameIgnoringCase_iff.mpr rfl

theorem sameIgnoringCase_congr {left right : String} (same : sameIgnoringCase left right = true)
    (text : String) : sameIgnoringCase left text = sameIgnoringCase right text := by
  rw [sameIgnoringCase, sameIgnoringCase, sameIgnoringCase_iff.mp same]

theorem beginsWith_iff {start text : String} :
    beginsWith start text = true ↔
      ∃ first rest : String, text = first ++ rest ∧ sameIgnoringCase first start = true := by
  constructor
  · intro begun
    refine ⟨String.ofList (text.toList.take start.length),
      String.ofList (text.toList.drop start.length), ?_, begun⟩
    rw [← String.ofList_append, List.take_append_drop, String.ofList_toList]
  · rintro ⟨first, rest, rfl, same⟩
    -- Letters of the other case are as many.
    have lengths : first.toList.length = start.length := by
      rw [← String.length_toList]
      simpa using congrArg List.length (sameIgnoringCase_iff.mp same)
    rw [beginsWith, String.toList_append, ← lengths, List.take_left, String.ofList_toList]
    exact same

theorem lowerCase_eq_of_sameIgnoringCase {left right : String}
    (same : sameIgnoringCase left right = true) : lowerCase left = lowerCase right := by
  unfold lowerCase
  rw [← lowerChars_map_toLower [] left.toList, sameIgnoringCase_iff.mp same,
    lowerChars_map_toLower [] right.toList]

end Portability.Text
