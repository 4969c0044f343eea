import Portability.Decimal.Numeral
import Portability.Proofs.Text.Locality

/-!
# Reading numerals is local

Whether a numeral goes on after a point depends on one more character, and whether it goes on after
a letter e depends on two. Where the digits are missing there, the point or the letter is left, and
an insertion behind it does not supply any.
-/
namespace Portability.Decimal

open Text

theorem splitSign_of_ne {c : Char} (unsigned : c ≠ '+' ∧ c ≠ '-') (rest : List Char) :
    splitSign (c :: rest) = (none, c :: rest) := by
  rw [splitSign.eq_def]
  split <;> simp_all

theorem unsigned_of_beginsLayout {mark : Char} (layout : beginsLayout mark = true) :
    mark ≠ '+' ∧ mark ≠ '-' :=
  ⟨ne_of_beginsLayout layout (by decide), ne_of_beginsLayout layout (by decide)⟩

theorem splitSign_length_le (text : List Char) : (splitSign text).2.length ≤ text.length := by
  unfold splitSign
  split <;> simp

theorem splitSign_isLocal : IsLocal splitSign where
  length_le := splitSign_length_le
  agrees {gap text wider} widens outside := by
    cases text with
    | nil => exact absurd rfl widens.ne_nil
    | cons c rest =>
      by_cases plus : c = '+'
      · subst plus
        obtain ⟨widerRest, rfl, left⟩ := widens.of_cons outside
        exact ⟨rfl, left⟩
      by_cases minus : c = '-'
      · subst minus
        obtain ⟨widerRest, rfl, left⟩ := widens.of_cons outside
        exact ⟨rfl, left⟩
      exact widens.agrees_of_stops (fun _ rest unsigned => splitSign_of_ne unsigned rest)
        unsigned_of_beginsLayout ⟨plus, minus⟩

/-- Digits, if there are any. -/
def someDigits? (digits : List Char) : Option (List Char) :=
  if digits.isEmpty then none else some digits

theorem someDigits?_eq_none {digits : List Char} : someDigits? digits = none ↔ digits = [] := by
  cases digits <;> simp [someDigits?]

/-- Where there are no digits, none are taken. -/
theorem splitDigits_snd_of_fst_eq_nil {text : List Char} (none : (splitDigits text).1 = []) :
    (splitDigits text).2 = text := by
  have whole := splitDigits_append text
  rwa [none, List.nil_append] at whole

theorem splitDigits_of_beginsLayout {mark : Char} (layout : beginsLayout mark = true)
    (tail : List Char) : splitDigits (mark :: tail) = ([], mark :: tail) :=
  splitDigits_of_not_isDigit (isDigit_of_beginsLayout layout) tail

/-- The digits behind a decimal point. -/
def fractionBody (rest : List Char) : Option (List Char) × List Char :=
  (someDigits? (splitDigits rest).1, (splitDigits rest).2)

theorem fractionBody_isLocal : IsLocal fractionBody := splitDigits_isLocal.map someDigits?

theorem splitFraction_eq : splitFraction = introduced (· == '.') fun _ => fractionBody := by
  funext text
  rw [splitFraction.eq_def]
  split
  · next rest =>
    split
    · next tail parts => simp [introduced, fractionBody, someDigits?, parts]
    · next digits tail some_digits parts =>
      have present : digits.isEmpty = false := by simpa using some_digits
      simp [introduced, fractionBody, someDigits?, parts, present]
  · next no_point =>
    cases text with
    | nil => rfl
    | cons c rest =>
      have other : c ≠ '.' := fun point => no_point rest (by rw [point])
      simp [introduced, other]

theorem splitFraction_isLocal : IsLocal splitFraction := by
  rw [splitFraction_eq]
  apply introduced_isLocal
  · exact fun layout => beq_eq_false_iff_ne.mpr (ne_of_beginsLayout layout (by decide))
  · exact fun _ => fractionBody_isLocal
  · intro _ mark tail layout
    rw [fractionBody, splitDigits_of_beginsLayout layout]
    rfl
  · intro _ text fails
    have none := splitDigits_snd_of_fst_eq_nil (someDigits?_eq_none.mp fails)
    rw [fractionBody, none]
    exact Nat.le_succ _

/-- The sign and the digits behind the letter of a power of ten. -/
def scaleBody (letter : Char) (rest : List Char) : Option Scale × List Char :=
  let digits := splitDigits (splitSign rest).2
  ((someDigits? digits.1).map (Scale.mk letter (splitSign rest).1), digits.2)

theorem scaleBody_isLocal (letter : Char) : IsLocal (scaleBody letter) :=
  splitSign_isLocal.bind fun sign => splitDigits_isLocal.map fun digits =>
    (someDigits? digits).map (Scale.mk letter sign)

theorem splitScale_eq : splitScale = introduced (fun c => c == 'e' || c == 'E') scaleBody := by
  funext text
  cases text with
  | nil => rfl
  | cons letter rest =>
    cases introduces : letter == 'e' || letter == 'E' with
    | false => simp [splitScale, introduced, introduces]
    | true =>
      simp only [splitScale, introduces, if_true]
      split
      · next tail parts => simp [introduced, scaleBody, someDigits?, parts]
      · next digits tail some_digits parts =>
        have present : digits.isEmpty = false := by simpa using some_digits
        simp [introduced, introduces, scaleBody, someDigits?, parts, present]

theorem splitSign_length_ge (text : List Char) :
    text.length ≤ (splitSign text).2.length + 1 := by
  unfold splitSign
  split <;> simp

theorem splitScale_isLocal : IsLocal splitScale := by
  rw [splitScale_eq]
  apply introduced_isLocal
  · intro mark layout
    rw [Bool.or_eq_false_iff]
    exact ⟨beq_eq_false_iff_ne.mpr (ne_of_beginsLayout layout (by decide)),
      beq_eq_false_iff_ne.mpr (ne_of_beginsLayout layout (by decide))⟩
  · exact scaleBody_isLocal
  · intro letter mark tail layout
    rw [scaleBody, splitSign_of_ne (unsigned_of_beginsLayout layout),
      splitDigits_of_beginsLayout layout]
    rfl
  · intro letter text fails
    have none := splitDigits_snd_of_fst_eq_nil (someDigits?_eq_none.mp (Option.map_eq_none_iff.mp fails))
    rw [scaleBody, none]
    exact splitSign_length_ge text

namespace Numeral

/-- The parts of a numeral before its power of ten, all of which may be missing. -/
def splitUnscaled (text : List Char) : Numeral × List Char :=
  let sign := splitSign text
  let whole := splitDigits sign.2
  let fraction := splitFraction whole.2
  (⟨sign.1, whole.1, fraction.1, none⟩, fraction.2)

theorem splitUnscaled_isLocal : IsLocal splitUnscaled :=
  splitSign_isLocal.bind fun sign => splitDigits_isLocal.bind fun whole =>
    splitFraction_isLocal.map fun fraction => Numeral.mk sign whole fraction none

/-- Whether there is no digit before the power of ten. -/
def isMissing (numeral : Numeral) : Bool := numeral.whole.isEmpty && numeral.fraction.isNone

def splitScaled (text : List Char) : Numeral × List Char :=
  let unscaled := splitUnscaled text
  let scale := splitScale unscaled.2
  ({ unscaled.1 with scale := scale.1 }, scale.2)

theorem splitScaled_isLocal : IsLocal splitScaled :=
  splitUnscaled_isLocal.bind fun unscaled => splitScale_isLocal.map fun scale =>
    { unscaled with scale }

theorem read?_eq (text : List Char) :
    read? text = if (splitUnscaled text).1.isMissing then none else some (splitScaled text) := by
  simp only [read?, readUnscaled?]
  change Option.bind (if (splitUnscaled text).1.isMissing then none else some (splitUnscaled text)) _
    = _
  split <;> rfl

/-- Where no numeral begins, at most a sign has been taken in to find that out. -/
theorem length_le_of_isMissing {text : List Char}
    (missing : (splitUnscaled text).1.isMissing = true) :
    text.length ≤ (splitUnscaled text).2.length + 1 := by
  simp only [isMissing, splitUnscaled, Bool.and_eq_true, List.isEmpty_iff,
    Option.isNone_iff_eq_none] at missing
  obtain ⟨no_whole, no_fraction⟩ := missing
  have fractional := splitFraction_append (splitDigits (splitSign text).2).2
  have untouched := splitDigits_snd_of_fst_eq_nil no_whole
  rw [no_fraction, Option.map_none, Option.getD_none, List.nil_append, untouched] at fractional
  simp only [splitUnscaled, untouched, fractional]
  exact splitSign_length_ge text

theorem read?_eq_none_of_widens {gap : Gap} {text wider : List Char} (widens : gap.Widens text wider)
    (outside : gap.rest.length < text.length) (absent : read? text = none) :
    read? wider = none := by
  rw [read?_eq] at absent ⊢
  split at absent
  · next missing =>
    have early := length_le_of_isMissing missing
    have agrees := splitUnscaled_isLocal.agrees widens (by omega)
    rw [agrees.1, missing]
    rfl
  · cases absent

theorem read?_eq_some_of_widens {gap : Gap} {text wider after : List Char} {numeral : Numeral}
    (widens : gap.Widens text wider) (found : read? text = some (numeral, after))
    (outside : gap.rest.length ≤ after.length) :
    ∃ widerAfter, read? wider = some (numeral, widerAfter) ∧ gap.Widens after widerAfter := by
  rw [read?_eq] at found ⊢
  split at found
  · cases found
  · next present =>
    -- Whether there is a numeral is decided before its power of ten is read.
    have parts : splitScaled text = (numeral, after) := Option.some.inj found
    have bound : gap.rest.length ≤ (splitScaled text).2.length := by rwa [parts]
    have unscaled := splitUnscaled_isLocal.agrees widens
      (Nat.le_trans bound (splitScale_isLocal.length_le (splitUnscaled text).2))
    obtain ⟨widerAfter, wider_parts, left⟩ := splitScaled_isLocal.eq_of_widens widens parts outside
    exact ⟨widerAfter, by rw [unscaled.1, if_neg present, wider_parts], left⟩

end Numeral

end Portability.Decimal
