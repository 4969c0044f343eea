import Portability.Proofs.Decimal.Grammar
import Portability.Proofs.Text.LowerCase

/-!
# Whole texts as numbers

A whole text is read as a double if it is a numeral. It may also end its whole part with a point, or
be a word for infinity or for what is not a number. A numeral has the value that it has as a part of
a text: it begins like no word, and its power of ten is not taken for a fraction.
-/
namespace Portability.Decimal

open Text

/-- A point without a fraction behind it is passed over. -/
def skipPoint : List Char → List Char
  | '.' :: rest => rest
  | text => text

/-- The numeral that a whole text is. A point may end its whole part. -/
def wholeNumeral? (text : List Char) : Option Numeral :=
  let unscaled := Numeral.splitUnscaled text
  let scale := splitScale
    (if unscaled.1.fraction.isSome then unscaled.2 else skipPoint unscaled.2)
  if unscaled.1.isMissing || !scale.2.isEmpty then none
  else some { unscaled.1 with scale := scale.1 }

/-- The double that a whole text writes, as a numeral or as a word in any case of its letters. -/
def ofText? (text : List Char) : Option Float :=
  let sign := splitSign text
  let word := String.ofList sign.2
  if sameIgnoringCase word "inf" || sameIgnoringCase word "infinity" then
    some (if sign.1 = some .minus then -infinity else infinity)
  else if sameIgnoringCase word "nan" then some notANumber
  else (wholeNumeral? text).map Numeral.value

theorem startsUnsigned_map_toLower (text : List Char) :
    startsUnsigned (text.map Char.toLower) = startsUnsigned text := by
  cases text with
  | nil => rfl
  | cons c rest =>
    by_cases point : c = '.'
    · subst point
      cases rest with
      | nil => rfl
      | cons d rest => exact apply_toLower isDigit (by decide) d
    · have still : c.toLower ≠ '.' := by
        have same := apply_toLower (· == '.') (by decide) c
        simpa [point] using same
      rw [List.map_cons, startsUnsigned_of_ne still, startsUnsigned_of_ne point,
        apply_toLower isDigit (by decide)]

/-- A number is not written like a word that begins with a letter. -/
theorem not_sameIgnoringCase_of_startsUnsigned {text : List Char} {word : String}
    (starts : startsUnsigned text = true) (letters : startsUnsigned word.toList = false) :
    sameIgnoringCase (String.ofList text) word = false := by
  refine Bool.eq_false_iff.mpr fun same => ?_
  have lowered := congrArg startsUnsigned (sameIgnoringCase_iff.mp same)
  rw [String.toList_ofList, startsUnsigned_map_toLower, startsUnsigned_map_toLower, starts,
    letters] at lowered
  cases lowered

namespace Numeral

theorem startsNumeral_spelling {numeral : Numeral} (formed : numeral.IsWellFormed) :
    startsNumeral numeral.spelling = true := by
  have starts := startsNumeral_spelling_append formed []
  rwa [List.append_nil] at starts

theorem splitScale_scaleSpelling {numeral : Numeral} (formed : numeral.IsWellFormed) :
    splitScale numeral.scaleSpelling = (numeral.scale, []) := by
  unfold scaleSpelling
  cases scale : numeral.scale with
  | none => rfl
  | some exponent =>
    have read := splitScale_append_left (formed.scale exponent scale) []
    simpa [splitDigits] using read

/-- The power of ten continues neither the whole part nor the fraction. -/
theorem split_scaleSpelling {numeral : Numeral} (formed : numeral.IsWellFormed) :
    splitDigits numeral.scaleSpelling = ([], numeral.scaleSpelling) ∧
    splitFraction numeral.scaleSpelling = (none, numeral.scaleSpelling) := by
  unfold scaleSpelling
  cases scale : numeral.scale with
  | none => exact ⟨rfl, rfl⟩
  | some exponent =>
    have digits := splitDigits_scale (formed.scale exponent scale) []
    have fraction := splitFraction_scale (formed.scale exponent scale) []
    rw [List.append_nil] at digits fraction
    exact ⟨digits, fraction⟩

theorem splitUnscaled_spelling {numeral : Numeral} (formed : numeral.IsWellFormed) :
    splitUnscaled numeral.spelling = ({ numeral with scale := none }, numeral.scaleSpelling) := by
  obtain ⟨no_digit, no_fraction⟩ := split_scaleSpelling formed
  have parts := spelling_append_eq numeral []
  rw [List.append_nil, List.append_nil] at parts
  change _ = _ ++ (_ ++ (_ ++ numeral.scaleSpelling)) at parts
  rw [parts]
  cases fraction : numeral.fraction with
  | some digits =>
    rw [splitUnscaled_of_fraction formed fraction, no_digit, List.append_nil]
  | none =>
    rw [splitUnscaled_of_no_fraction formed fraction, no_digit, List.append_nil]
    dsimp only
    rw [no_fraction]

theorem skipPoint_scaleSpelling {numeral : Numeral} (formed : numeral.IsWellFormed) :
    skipPoint numeral.scaleSpelling = numeral.scaleSpelling := by
  unfold scaleSpelling
  cases scale : numeral.scale with
  | none => rfl
  | some exponent =>
    obtain letter | letter := (formed.scale exponent scale).letter <;>
      simp only [Option.map_some, Option.getD_some, Scale.spelling, letter] <;> rfl

theorem wholeNumeral?_spelling {numeral : Numeral} (formed : numeral.IsWellFormed) :
    wholeNumeral? numeral.spelling = some numeral := by
  have present := isMissing_splitUnscaled numeral.spelling
  rw [startsNumeral_spelling formed] at present
  unfold wholeNumeral?
  dsimp only
  rw [present, splitUnscaled_spelling formed, skipPoint_scaleSpelling formed]
  dsimp only
  rw [ite_self, splitScale_scaleSpelling formed]
  rfl

/-- A numeral is read as a whole text, with the value that it has as a part of one. -/
theorem ofText?_spelling {numeral : Numeral} (formed : numeral.IsWellFormed) :
    ofText? numeral.spelling = some numeral.value := by
  have starts := startsNumeral_spelling formed
  unfold ofText?
  dsimp only
  rw [not_sameIgnoringCase_of_startsUnsigned starts (by decide),
    not_sameIgnoringCase_of_startsUnsigned starts (by decide),
    not_sameIgnoringCase_of_startsUnsigned starts (by decide), wholeNumeral?_spelling formed]
  rfl

end Numeral

end Portability.Decimal
