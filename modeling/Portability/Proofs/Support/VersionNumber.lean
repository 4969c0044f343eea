import Mathlib.Data.List.Induction
import Portability.Proofs.Decimal.OfText
import Portability.Support.Version

/-!
# The number at the start of a version

The number of a version is the longest one that its text begins with. It may end with a point that
has no digits behind it; without this point it is a numeral, so it always has a value, and what
stands behind it has no say in that value.

One pass over the characters finds the number. It remembers of the characters it took whether there
were any, whether there was a digit, and whether there was a point, and it takes a further one as
long as the characters could be the beginning of a number. Whether they are a number is then told
by the digit alone.
-/
namespace Portability

open Text Decimal

/-- Perhaps a sign, then digits and perhaps a point with or without digits behind it, or a point and
digits. -/
inductive IsLeadingNumber : List Char → Prop
  | whole (sign : Option Sign) {digits : List Char} (formed : IsDigits digits) :
      IsLeadingNumber ((sign.map Sign.char).toList ++ digits)
  | pointed (sign : Option Sign) {digits further : List Char} (formed : IsDigits digits)
      (all : ∀ c ∈ further, isDigit c = true) :
      IsLeadingNumber ((sign.map Sign.char).toList ++ (digits ++ '.' :: further))
  | fraction (sign : Option Sign) {digits : List Char} (formed : IsDigits digits) :
      IsLeadingNumber ((sign.map Sign.char).toList ++ '.' :: digits)

/-- The longest of all texts of some form that a text begins with. -/
structure IsLongestPrefix (form : List Char → Prop) (text start : List Char) : Prop where
  isForm : form start
  begins : start <+: text
  length_le (other : List Char) (formed : form other) (begins : other <+: text) :
    other.length ≤ start.length

/-- A point at the end is dropped. -/
def withoutFinalPoint (text : List Char) : List Char :=
  if text.getLast? = some '.' then text.dropLast else text

theorem Decimal.isDigits_singleton {c : Char} (digit : isDigit c = true) : IsDigits [c] :=
  ⟨List.cons_ne_nil c [], List.forall_mem_singleton.mpr digit⟩

theorem Decimal.IsDigits.append {digits further : List Char} (formed : IsDigits digits)
    (all : ∀ c ∈ further, isDigit c = true) : IsDigits (digits ++ further) :=
  ⟨List.append_ne_nil_of_left_ne_nil formed.1 _, List.forall_mem_append.mpr ⟨formed.2, all⟩⟩

namespace IsLeadingNumber

/-- A digit behind a number belongs to it. -/
theorem concat_digit {text : List Char} (formed : IsLeadingNumber text) {c : Char}
    (digit : isDigit c = true) : IsLeadingNumber (text ++ [c]) := by
  have single := (isDigits_singleton digit).2
  cases formed with
  | whole sign digits => simpa using whole sign (digits.append single)
  | pointed sign digits all =>
    simpa using pointed sign digits (List.forall_mem_append.mpr ⟨all, single⟩)
  | fraction sign digits => simpa using fraction sign (digits.append single)

theorem exists_digit {text : List Char} (formed : IsLeadingNumber text) :
    ∃ c ∈ text, isDigit c = true := by
  rcases formed with ⟨sign, digits⟩ | ⟨sign, digits, all⟩ | ⟨sign, digits⟩ <;>
    obtain ⟨c, rest, rfl⟩ := List.exists_cons_of_ne_nil digits.1 <;>
    exact ⟨c, by simp, digits.2 c List.mem_cons_self⟩

/-- Without the point at its end a number is a numeral, and further points are not part of it. -/
theorem exists_numeral {text : List Char} (formed : IsLeadingNumber text) :
    ∃ numeral : Numeral, numeral.IsWellFormed ∧ numeral.scale = none ∧
      (text = numeral.spelling ∨ numeral.fraction = none ∧ text = numeral.spelling ++ ['.']) := by
  have unscaled : ∀ scale ∈ (none : Option Scale), scale.IsWellFormed := by rintro _ ⟨⟩
  cases formed with
  | @whole sign digits formed =>
    exact ⟨⟨sign, digits, none, none⟩, ⟨formed.2, by rintro _ ⟨⟩, .inl formed.1, unscaled⟩, rfl,
      .inl (by simp [Numeral.spelling])⟩
  | @pointed sign digits further formed all =>
    by_cases empty : further = []
    · exact ⟨⟨sign, digits, none, none⟩, ⟨formed.2, by rintro _ ⟨⟩, .inl formed.1, unscaled⟩, rfl,
        .inr ⟨rfl, by simp [Numeral.spelling, empty]⟩⟩
    · exact ⟨⟨sign, digits, some further, none⟩,
        ⟨formed.2, by rintro _ ⟨⟩; exact ⟨empty, all⟩, .inl formed.1, unscaled⟩, rfl,
        .inl (by simp [Numeral.spelling])⟩
  | @fraction sign digits formed =>
    exact ⟨⟨sign, [], some digits, none⟩,
      ⟨by simp, by rintro _ ⟨⟩; exact formed, .inr rfl, unscaled⟩, rfl,
      .inl (by simp [Numeral.spelling])⟩

end IsLeadingNumber

/-! The reader takes the longest number, but for the point at its end. -/

namespace Decimal.Numeral

theorem readUnscaled?_eq_ite (text : List Char) :
    readUnscaled? text = if startsNumeral text then some (splitUnscaled text) else none := by
  change (if (splitUnscaled text).1.isMissing then none else some (splitUnscaled text)) = _
  rw [isMissing_splitUnscaled]
  cases startsNumeral text <;> rfl

/-- A numeral is read up to a text that does not continue it. -/
theorem readUnscaled?_spelling_append {numeral : Numeral} (formed : numeral.IsWellFormed)
    (unscaled : numeral.scale = none) {rest : List Char}
    (no_digit : splitDigits rest = ([], rest))
    (no_fraction : numeral.fraction = none → splitFraction rest = (none, rest)) :
    readUnscaled? (numeral.spelling ++ rest) = some (numeral, rest) := by
  have parts := spelling_append_eq numeral rest
  rw [scaleSpelling, unscaled] at parts
  change _ = _ ++ (_ ++ (_ ++ rest)) at parts
  rw [readUnscaled?_eq_ite, startsNumeral_spelling_append formed, if_pos rfl, parts]
  obtain ⟨sign, whole, fraction, scale⟩ := numeral
  cases unscaled
  cases fraction with
  | some digits =>
    rw [splitUnscaled_of_fraction formed rfl, no_digit, List.append_nil]
  | none =>
    rw [splitUnscaled_of_no_fraction formed rfl, no_digit, List.append_nil]
    dsimp only
    rw [no_fraction rfl]

/-- A point behind a numeral without a fraction belongs to the number. -/
theorem IsWellFormed.isLeadingNumber_point {numeral : Numeral} (formed : numeral.IsWellFormed)
    (unscaled : numeral.scale = none) (no_fraction : numeral.fraction = none) :
    IsLeadingNumber (numeral.spelling ++ ['.']) := by
  obtain ⟨sign, whole, fraction, scale⟩ := numeral
  cases unscaled
  cases no_fraction
  have some_digit : whole ≠ [] := formed.present.resolve_right (by simp)
  have pointed := IsLeadingNumber.pointed sign ⟨some_digit, formed.whole⟩ (List.forall_mem_nil _)
  simpa [spelling] using pointed

/-- The last character of a numeral without a power of ten is a digit. -/
theorem getLast?_spelling {numeral : Numeral} (formed : numeral.IsWellFormed)
    (unscaled : numeral.scale = none) : numeral.spelling.getLast? ≠ some '.' := by
  have digits_last : ∀ (before digits : List Char), IsDigits digits →
      (before ++ digits).getLast? ≠ some '.' := by
    intro before digits formed point
    rw [List.getLast?_append, List.getLast?_eq_some_getLast formed.1, Option.some_or] at point
    have digit := formed.2 _ (List.getLast_mem formed.1)
    rw [Option.some.inj point] at digit
    revert digit
    decide
  obtain ⟨sign, whole, fraction, scale⟩ := numeral
  cases unscaled
  cases fraction with
  | some digits =>
    have last := digits_last ((sign.map Sign.char).toList ++ whole ++ ['.']) digits
      (formed.fraction digits rfl)
    simpa [spelling] using last
  | none =>
    have some_digit : whole ≠ [] := formed.present.resolve_right (by simp)
    have last := digits_last (sign.map Sign.char).toList whole ⟨some_digit, formed.whole⟩
    simpa [spelling] using last

end Decimal.Numeral

/-- Where a numeral starts, a number stands. -/
theorem exists_isLeadingNumber {text : List Char} (starts : startsNumeral text = true) :
    ∃ number, IsLeadingNumber number ∧ number <+: text := by
  have signed := splitSign_append text
  unfold startsNumeral at starts
  generalize splitSign text = parts at starts signed
  obtain ⟨sign, unsigned⟩ := parts
  subst signed
  cases unsigned with
  | nil => cases starts
  | cons c rest =>
    by_cases point : c = '.'
    · subst point
      cases rest with
      | nil => cases starts
      | cons d rest => exact ⟨_, .fraction sign (isDigits_singleton starts), rest, by simp⟩
    · rw [startsUnsigned_of_ne point] at starts
      exact ⟨_, .whole sign (isDigits_singleton starts), rest, by simp⟩

/-- The character behind the longest start does not continue it. -/
theorem IsLongestPrefix.not_form_concat {form : List Char → Prop} {start rest : List Char} {c : Char}
    (longest : IsLongestPrefix form (start ++ c :: rest) start) : ¬form (start ++ [c]) := by
  intro formed
  have longer := longest.length_le _ formed ⟨rest, by simp⟩
  rw [List.length_append] at longer
  exact Nat.not_succ_le_self _ longer

/-- No digit stands behind the longest number. -/
theorem splitDigits_of_longest {number rest : List Char}
    (longest : IsLongestPrefix IsLeadingNumber (number ++ rest) number) :
    splitDigits rest = ([], rest) := by
  cases rest with
  | nil => rfl
  | cons c rest =>
    apply splitDigits_of_not_isDigit
    refine Bool.eq_false_iff.mpr fun digit => ?_
    exact longest.not_form_concat (longest.isForm.concat_digit digit)

theorem splitFraction_of_longest {numeral : Numeral} (formed : numeral.IsWellFormed)
    (unscaled : numeral.scale = none) {rest : List Char}
    (longest : IsLongestPrefix IsLeadingNumber (numeral.spelling ++ rest) numeral.spelling)
    (no_fraction : numeral.fraction = none) : splitFraction rest = (none, rest) := by
  cases rest with
  | nil => rfl
  | cons c rest =>
    -- A point would belong to the number, even without digits behind it.
    have other : c ≠ '.' := by
      rintro rfl
      exact longest.not_form_concat (formed.isLeadingNumber_point unscaled no_fraction)
    rw [splitFraction_eq]
    exact introduced_of_isNone (by simp [other])

/-- The longest number, without a point at its end, is the numeral that is read. -/
theorem exists_readUnscaled?_of_longest {text number : List Char}
    (longest : IsLongestPrefix IsLeadingNumber text number) :
    ∃ numeral rest, numeral.IsWellFormed ∧ withoutFinalPoint number = numeral.spelling ∧
      Numeral.readUnscaled? text = some (numeral, rest) := by
  obtain ⟨rest, rfl⟩ := longest.begins
  have no_digit := splitDigits_of_longest longest
  obtain ⟨numeral, formed, unscaled, rfl | ⟨no_fraction, rfl⟩⟩ := longest.isForm.exists_numeral
  · refine ⟨numeral, rest, formed, if_neg (Numeral.getLast?_spelling formed unscaled), ?_⟩
    exact Numeral.readUnscaled?_spelling_append formed unscaled no_digit
      (splitFraction_of_longest formed unscaled longest)
  · -- The point is left to the rest, where it starts no fraction, as no digit stands behind it.
    refine ⟨numeral, '.' :: rest, formed, by simp [withoutFinalPoint], ?_⟩
    rw [List.append_assoc]
    refine Numeral.readUnscaled?_spelling_append formed unscaled ?_ fun _ => ?_
    · exact splitDigits_of_not_isDigit (by decide) rest
    · rw [splitFraction_eq]
      exact introduced_of_isNone (by simp [fractionBody, no_digit, someDigits?])

/-! One pass over the characters finds the longest number. -/

/-- What a pass remembers of the characters that it took. -/
structure VersionScan where
  started : Bool := false
  digit : Bool := false
  point : Bool := false
deriving DecidableEq

namespace VersionScan

/-- Takes digits, one point, and a sign if it comes first. -/
def next? (scan : VersionScan) (c : Char) : Option VersionScan :=
  if isDigit c then some { scan with started := true, digit := true }
  else if c = '.' ∧ scan.point = false then some { scan with started := true, point := true }
  else if (c = '+' ∨ c = '-') ∧ scan.started = false then some { scan with started := true }
  else none

/-- Takes characters up to the first that cannot be taken. -/
def run (scan : VersionScan) : List Char → List Char × VersionScan
  | [] => ([], scan)
  | c :: rest =>
    match scan.next? c with
    | some next => (c :: (run next rest).1, (run next rest).2)
    | none => ([], scan)

/-- All that a step can take. -/
theorem next?_cases {scan next : VersionScan} {c : Char} (taken : scan.next? c = some next) :
    (isDigit c = true ∧ next = ⟨true, true, scan.point⟩) ∨
    (c = '.' ∧ scan.point = false ∧ next = ⟨true, scan.digit, true⟩) ∨
    ∃ sign : Sign, c = sign.char ∧ scan.started = false ∧ next = ⟨true, scan.digit, scan.point⟩ := by
  unfold next? at taken
  split at taken
  next digit => exact .inl ⟨digit, (Option.some.inj taken).symm⟩
  split at taken
  next point => exact .inr (.inl ⟨point.1, point.2, (Option.some.inj taken).symm⟩)
  split at taken
  next signed =>
    have made := (Option.some.inj taken).symm
    obtain ⟨rfl | rfl, first⟩ := signed
    · exact .inr (.inr ⟨.plus, rfl, first, made⟩)
    · exact .inr (.inr ⟨.minus, rfl, first, made⟩)
  · cases taken

/-- What was taken, as far as it can be told from what the pass remembers. -/
inductive Recalls : VersionScan → List Char → Prop
  | sign (sign : Option Sign) : Recalls ⟨sign.isSome, false, false⟩ (sign.map Sign.char).toList
  | point (sign : Option Sign) :
      Recalls ⟨true, false, true⟩ ((sign.map Sign.char).toList ++ ['.'])
  | whole (sign : Option Sign) {digits : List Char} (formed : IsDigits digits) :
      Recalls ⟨true, true, false⟩ ((sign.map Sign.char).toList ++ digits)
  | pointed (sign : Option Sign) {digits further : List Char} (formed : IsDigits digits)
      (all : ∀ c ∈ further, isDigit c = true) :
      Recalls ⟨true, true, true⟩ ((sign.map Sign.char).toList ++ (digits ++ '.' :: further))
  | fraction (sign : Option Sign) {digits : List Char} (formed : IsDigits digits) :
      Recalls ⟨true, true, true⟩ ((sign.map Sign.char).toList ++ '.' :: digits)

/-- One step keeps the memory right. -/
theorem Recalls.step {scan next : VersionScan} {before : List Char} {c : Char}
    (recalls : Recalls scan before) (taken : scan.next? c = some next) :
    Recalls next (before ++ [c]) := by
  obtain ⟨digit, rfl⟩ | ⟨rfl, first, rfl⟩ | ⟨sign, rfl, first, rfl⟩ := next?_cases taken
  · have single := isDigits_singleton digit
    cases recalls with
    | sign sign => exact whole sign single
    | point sign => simpa using fraction sign single
    | whole sign digits => simpa using whole sign (digits.append single.2)
    | pointed sign digits all =>
      simpa using pointed sign digits (List.forall_mem_append.mpr ⟨all, single.2⟩)
    | fraction sign digits => simpa using fraction sign (digits.append single.2)
  · cases recalls with
    | sign sign => exact point sign
    | whole sign digits => simpa using pointed sign digits (List.forall_mem_nil _)
    | point | pointed | fraction => cases first
  · cases recalls with
    | sign earlier =>
      cases earlier with
      | none => exact Recalls.sign (some sign)
      | some => cases first
    | point | whole | pointed | fraction => cases first

theorem recalls_of_foldlM {scan : VersionScan} {taken : List Char}
    (passed : taken.foldlM next? {} = some scan) : Recalls scan taken := by
  -- From the end, since the memory is about all that stands before the last step.
  induction taken using List.reverseRecOn generalizing scan with
  | nil =>
    cases passed
    exact .sign none
  | append_singleton before last ih =>
    rw [List.foldlM_append, Option.bind_eq_bind, Option.bind_eq_some_iff] at passed
    obtain ⟨earlier, reached, step⟩ := passed
    exact (ih reached).step (by simpa using step)

theorem next?_of_isDigit (scan : VersionScan) {c : Char} (digit : isDigit c = true) :
    scan.next? c = some ⟨true, true, scan.point⟩ := if_pos digit

theorem foldlM_sign (sign : Option Sign) :
    (sign.map Sign.char).toList.foldlM next? {} = some ⟨sign.isSome, false, false⟩ := by
  cases sign with
  | none => rfl
  | some sign => cases sign <;> rfl

theorem foldlM_further (point : Bool) {digits : List Char} (all : ∀ c ∈ digits, isDigit c = true) :
    digits.foldlM next? ⟨true, true, point⟩ = some ⟨true, true, point⟩ := by
  induction digits with
  | nil => rfl
  | cons c rest ih =>
    rw [List.foldlM_cons, next?_of_isDigit _ (all c List.mem_cons_self)]
    exact ih fun d member => all d (List.mem_cons_of_mem c member)

theorem foldlM_digits (scan : VersionScan) {digits : List Char} (formed : IsDigits digits) :
    digits.foldlM next? scan = some ⟨true, true, scan.point⟩ := by
  obtain ⟨c, rest, rfl⟩ := List.exists_cons_of_ne_nil formed.1
  rw [List.foldlM_cons, next?_of_isDigit scan (formed.2 c List.mem_cons_self)]
  exact foldlM_further scan.point fun d member => formed.2 d (List.mem_cons_of_mem c member)

/-- Whatever can be recalled can be taken. -/
theorem foldlM_of_recalls {scan : VersionScan} {taken : List Char} (recalls : Recalls scan taken) :
    taken.foldlM next? {} = some scan := by
  cases recalls with
  | sign sign => exact foldlM_sign sign
  | point sign =>
    rw [List.foldlM_append, foldlM_sign]
    rfl
  | whole sign digits =>
    rw [List.foldlM_append, foldlM_sign]
    exact foldlM_digits _ digits
  | pointed sign digits all =>
    rw [List.foldlM_append, foldlM_sign, Option.bind_eq_bind, Option.bind_some,
      List.foldlM_append, foldlM_digits _ digits]
    exact foldlM_further true all
  | fraction sign digits =>
    rw [List.foldlM_append, foldlM_sign]
    exact foldlM_digits ⟨true, false, true⟩ digits

theorem isLeadingNumber_iff {taken : List Char} :
    IsLeadingNumber taken ↔ ∃ scan, taken.foldlM next? {} = some scan ∧ scan.digit = true := by
  constructor
  · rintro (⟨sign, digits⟩ | ⟨sign, digits, all⟩ | ⟨sign, digits⟩)
    · exact ⟨_, foldlM_of_recalls (.whole sign digits), rfl⟩
    · exact ⟨_, foldlM_of_recalls (.pointed sign digits all), rfl⟩
    · exact ⟨_, foldlM_of_recalls (.fraction sign digits), rfl⟩
  · rintro ⟨scan, passed, digit⟩
    cases recalls_of_foldlM passed with
    | sign | point => cases digit
    | whole sign digits => exact .whole sign digits
    | pointed sign digits all => exact .pointed sign digits all
    | fraction sign digits => exact .fraction sign digits

theorem foldlM_run (scan : VersionScan) (text : List Char) :
    (run scan text).1.foldlM next? scan = some (run scan text).2 := by
  fun_induction run scan text with
  | case1 => rfl
  | case2 scan c rest next step ih =>
    rw [List.foldlM_cons, step]
    exact ih
  | case3 => rfl

/-- A run takes all that single steps can take. -/
theorem run_isLongestPrefix (scan : VersionScan) (text : List Char) :
    IsLongestPrefix (fun taken => (taken.foldlM next? scan).isSome = true) text
      (run scan text).1 where
  isForm := by rw [foldlM_run, Option.isSome_some]
  begins := by
    fun_induction run scan text with
    | case1 => exact List.prefix_rfl
    | case2 scan c rest next step ih => exact List.cons_prefix_cons.mpr ⟨rfl, ih⟩
    | case3 => exact List.nil_prefix
  length_le other passed begins := by
    fun_induction run scan text generalizing other with
    | case1 => exact begins.length_le
    | case2 scan c rest next step ih =>
      -- Any other start that is not empty has the same first step.
      obtain rfl | ⟨further, rfl, later⟩ := List.prefix_cons_iff.mp begins
      · exact Nat.zero_le _
      · rw [List.foldlM_cons, step] at passed
        exact Nat.succ_le_succ (ih further passed later)
    | case3 scan c rest stop =>
      obtain rfl | ⟨further, rfl, later⟩ := List.prefix_cons_iff.mp begins
      · exact Nat.le_refl _
      · rw [List.foldlM_cons, stop] at passed
        cases passed

/-- A digit that was taken is remembered. -/
theorem digit_of_mem {scan : VersionScan} {taken : List Char} (recalls : Recalls scan taken)
    {c : Char} (member : c ∈ taken) (digit : isDigit c = true) : scan.digit = true := by
  have no_sign (sign : Option Sign) : c ∉ (sign.map Sign.char).toList := by
    intro signed
    obtain ⟨sign, _, rfl⟩ := Option.map_eq_some_iff.mp (Option.mem_toList.mp signed)
    revert digit
    cases sign <;> decide
  have no_point : c ≠ '.' := ne_of_isDigit digit (by decide)
  cases recalls with
  | sign sign => exact absurd member (no_sign sign)
  | point sign =>
    rcases List.mem_append.mp member with signed | point
    · exact absurd signed (no_sign sign)
    · exact absurd (List.mem_singleton.mp point) no_point
  | whole | pointed | fraction => rfl

theorem run_isLongest_of_digit {text : List Char} (digit : (run {} text).2.digit = true) :
    IsLongestPrefix IsLeadingNumber text (run {} text).1 where
  isForm := isLeadingNumber_iff.mpr ⟨_, foldlM_run {} text, digit⟩
  begins := (run_isLongestPrefix {} text).begins
  length_le other formed begins := by
    obtain ⟨scan, passed, _⟩ := isLeadingNumber_iff.mp formed
    exact (run_isLongestPrefix {} text).length_le other (Option.isSome_of_eq_some passed) begins

/-- A digit is taken just if the text begins with a number. -/
theorem digit_run_iff {text : List Char} :
    (run {} text).2.digit = true ↔ ∃ number, IsLeadingNumber number ∧ number <+: text := by
  have longest := run_isLongestPrefix {} text
  constructor
  · intro digit
    exact ⟨_, (run_isLongest_of_digit digit).isForm, longest.begins⟩
  · rintro ⟨number, formed, begins⟩
    obtain ⟨scan, passed, _⟩ := isLeadingNumber_iff.mp formed
    -- Both begin the text, so the number lies within what was taken, and its digit with it.
    have within : number <+: (run {} text).1 := List.prefix_of_prefix_length_le begins
      longest.begins (longest.length_le number (Option.isSome_of_eq_some passed) begins)
    obtain ⟨c, member, digit⟩ := formed.exists_digit
    exact digit_of_mem (recalls_of_foldlM (foldlM_run {} text)) (within.subset member) digit

end VersionScan

theorem versionNumber_of_longest {version : String} {number : List Char}
    (longest : IsLongestPrefix IsLeadingNumber (trimStart version.toList) number) :
    ofText? (withoutFinalPoint number) = some (versionNumber version) := by
  obtain ⟨numeral, rest, formed, same, read⟩ := exists_readUnscaled?_of_longest longest
  rw [same, Numeral.ofText?_spelling formed, versionNumber, read]

theorem versionNumber_of_no_number {version : String}
    (absent : ¬∃ number, IsLeadingNumber number ∧ number <+: trimStart version.toList) :
    versionNumber version = notANumber := by
  have missing : startsNumeral (trimStart version.toList) = false :=
    Bool.eq_false_iff.mpr fun starts => absent (exists_isLeadingNumber starts)
  rw [versionNumber, Numeral.readUnscaled?_eq_ite, missing]
  rfl

/--
The number of a version is the value of the longest number that its text begins with, as a whole text
without a point at its end; such a text always has a value, and nothing behind it changes it. A
version that begins with no number has none. One pass over the characters comes across a digit just
if there is a number, and then it has taken the longest.
-/
theorem versionNumber_reads_longest (version : String) :
    let text := trimStart version.toList
    let pass := VersionScan.run {} text
    ((¬∃ number, IsLeadingNumber number ∧ number <+: text) → versionNumber version = notANumber) ∧
    (∀ number, IsLongestPrefix IsLeadingNumber text number →
      ofText? (withoutFinalPoint number) = some (versionNumber version) ∧
      ∀ other, IsLongestPrefix IsLeadingNumber (trimStart other.toList) number →
        versionNumber other = versionNumber version) ∧
    (pass.2.digit = true ↔ ∃ number, IsLeadingNumber number ∧ number <+: text) ∧
    (pass.2.digit = true → IsLongestPrefix IsLeadingNumber text pass.1 ∧
      ofText? (withoutFinalPoint pass.1) = some (versionNumber version)) := by
  refine ⟨versionNumber_of_no_number, fun number longest => ?_, VersionScan.digit_run_iff,
    fun digit => ?_⟩
  · have value := versionNumber_of_longest longest
    refine ⟨value, fun other same => ?_⟩
    exact Option.some.inj ((versionNumber_of_longest same).symm.trans value)
  · have longest := VersionScan.run_isLongest_of_digit digit
    exact ⟨longest, versionNumber_of_longest longest⟩

theorem versionNumber_reads_longest_pointed :
    versionNumber "-. beta" = notANumber ∧
    IsLongestPrefix IsLeadingNumber "-12..1 beta".toList "-12.".toList ∧
    ofText? "-12".toList = some (versionNumber "\t-12..1 beta") ∧
    versionNumber "-12." = versionNumber "\t-12..1 beta" := by
  obtain ⟨no_number, _, seen, _⟩ := versionNumber_reads_longest "-. beta"
  obtain ⟨_, read, _, passed⟩ := versionNumber_reads_longest "\t-12..1 beta"
  obtain ⟨_, _, _, alone⟩ := versionNumber_reads_longest "-12."
  obtain ⟨longest, value⟩ := passed (by decide)
  refine ⟨no_number fun number => absurd (seen.mpr number) (by decide), longest, value, ?_⟩
  exact (read _ longest).2 _ (alone (by decide)).1

end Portability
