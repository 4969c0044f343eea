import Mathlib.Data.List.TakeWhile
import Portability.Proofs.Decimal.Locality

/-!
# The grammar of numerals

A numeral is well formed if its runs of digits are not empty and its power of ten begins with the
letter e. Whether one begins at a place can be told from at most three characters. The reader takes
the longest one: put before any text, a well-formed numeral is read to its end and then on into the
text, as far as the text continues it.
-/
namespace Portability.Decimal

open Text

/-- A run of digits. -/
def IsDigits (text : List Char) : Prop := text ≠ [] ∧ ∀ c ∈ text, isDigit c = true

instance (text : List Char) : Decidable (IsDigits text) :=
  decidable_of_iff (text ≠ [] ∧ text.all isDigit = true) (and_congr_right fun _ => List.all_eq_true)

structure Scale.IsWellFormed (scale : Scale) : Prop where
  letter : scale.letter = 'e' ∨ scale.letter = 'E'
  digits : IsDigits scale.digits

/-- Digits, perhaps with a fraction, or a fraction alone; before it perhaps a sign, and behind it
perhaps a power of ten. -/
structure Numeral.IsWellFormed (numeral : Numeral) : Prop where
  whole : ∀ c ∈ numeral.whole, isDigit c = true
  fraction : ∀ digits ∈ numeral.fraction, IsDigits digits
  present : numeral.whole ≠ [] ∨ numeral.fraction.isSome = true
  scale : ∀ scale ∈ numeral.scale, scale.IsWellFormed

/-! What is read is well formed. -/

/-- A part that a character introduces is what its body reads, or it is missing. -/
theorem introduced_cases {β : Type} (introduces : Char → Bool)
    (body : Char → List Char → Option β × List Char) (text : List Char) :
    introduced introduces body text = (none, text) ∨
    ∃ c rest, text = c :: rest ∧ introduces c = true ∧
      introduced introduces body text = body c rest := by
  cases text with
  | nil => exact .inl rfl
  | cons c rest =>
    cases reads : introduces c && (body c rest).1.isSome with
    | false => exact .inl (introduced_of_isNone reads)
    | true =>
      exact .inr ⟨c, rest, rfl, (Bool.and_eq_true_iff.mp reads).1, introduced_of_isSome reads⟩

theorem isSome_introduced {β : Type} (introduces : Char → Bool)
    (body : Char → List Char → Option β × List Char) (c : Char) (rest : List Char) :
    (introduced introduces body (c :: rest)).1.isSome =
      (introduces c && (body c rest).1.isSome) := by
  cases reads : introduces c && (body c rest).1.isSome with
  | true =>
    rw [introduced_of_isSome reads]
    exact (Bool.and_eq_true_iff.mp reads).2
  | false =>
    rw [introduced_of_isNone reads]
    rfl

theorem introduced_eq_some {β : Type} {introduces : Char → Bool}
    {body : Char → List Char → Option β × List Char} {c : Char} {rest after : List Char} {part : β}
    (introducing : introduces c = true) (read : body c rest = (some part, after)) :
    introduced introduces body (c :: rest) = (some part, after) := by
  rw [introduced_of_isSome (by rw [introducing, read]; rfl), read]

theorem splitDigits_all (text : List Char) : ∀ c ∈ (splitDigits text).1, isDigit c = true :=
  fun _ member => List.mem_takeWhile_imp member

theorem ne_of_isDigit {c other : Char} (digit : isDigit c = true)
    (no_digit : isDigit other = false) : c ≠ other := by
  rintro rfl
  rw [digit] at no_digit
  cases no_digit

theorem someDigits?_of_isDigits {digits : List Char} (formed : IsDigits digits)
    (more : List Char) : someDigits? (digits ++ more) = some (digits ++ more) := by
  unfold someDigits?
  rw [if_neg]
  simp [formed.1]

theorem someDigits?_eq_some {text digits : List Char}
    (found : someDigits? (splitDigits text).1 = some digits) :
    (splitDigits text).1 = digits ∧ IsDigits digits := by
  unfold someDigits? at found
  split at found
  · cases found
  next present =>
    cases found
    exact ⟨rfl, fun empty => present (by rw [empty]; rfl), splitDigits_all text⟩

theorem splitFraction_isDigits (text : List Char) :
    ∀ digits ∈ (splitFraction text).1, IsDigits digits := by
  intro digits found
  rw [splitFraction_eq] at found
  obtain missing | ⟨_, rest, _, _, same⟩ :=
    introduced_cases (· == '.') (fun _ => fractionBody) text
  · rw [missing] at found
    cases found
  · rw [same] at found
    exact (someDigits?_eq_some found).2

theorem splitScale_isWellFormed (text : List Char) :
    ∀ scale ∈ (splitScale text).1, scale.IsWellFormed := by
  intro scale found
  rw [splitScale_eq] at found
  obtain missing | ⟨letter, rest, _, introduces, same⟩ :=
    introduced_cases (fun c => c == 'e' || c == 'E') scaleBody text
  · rw [missing] at found
    cases found
  · rw [same] at found
    obtain ⟨digits, some_digits, rfl⟩ := Option.map_eq_some_iff.mp found
    exact ⟨by simpa using introduces, (someDigits?_eq_some some_digits).2⟩

namespace Numeral

theorem splitScaled_isWellFormed {text : List Char}
    (present : (splitUnscaled text).1.isMissing = false) :
    (splitScaled text).1.IsWellFormed where
  whole := splitDigits_all _
  fraction := splitFraction_isDigits _
  present := by
    obtain some_digit | some_fraction := Bool.and_eq_false_iff.mp present
    · exact .inl (List.isEmpty_eq_false_iff.mp some_digit)
    · exact .inr (Option.isNone_eq_false_iff.mp some_fraction)
  scale := splitScale_isWellFormed _

theorem isWellFormed_of_read? {text rest : List Char} {numeral : Numeral}
    (found : read? text = some (numeral, rest)) : numeral.IsWellFormed := by
  rw [read?_eq] at found
  split at found
  · cases found
  next present =>
    have parts : splitScaled text = (numeral, rest) := Option.some.inj found
    have formed := splitScaled_isWellFormed (Bool.eq_false_iff.mpr present)
    rwa [parts] at formed

end Numeral

/-! Whether a numeral begins at a place is seen from three characters there. -/

/-- Whether a digit stands here, or a point before a digit. -/
def startsUnsigned : List Char → Bool
  | '.' :: c :: _ => isDigit c
  | c :: _ => isDigit c
  | [] => false

/-- Whether a digit stands here, perhaps behind a sign and a point. -/
def startsNumeral (text : List Char) : Bool := startsUnsigned (splitSign text).2

theorem startsUnsigned_of_ne {c : Char} (no_point : c ≠ '.') (rest : List Char) :
    startsUnsigned (c :: rest) = isDigit c := by
  rw [startsUnsigned.eq_def]
  split <;> simp_all

/-- The characters that a numeral can begin with. -/
def numeralMarks : List Char :=
  ['+', '-', '.', '0', '1', '2', '3', '4', '5', '6', '7', '8', '9']

theorem mem_numeralMarks_of_isDigit {c : Char} (digit : isDigit c = true) : c ∈ numeralMarks := by
  have checked : ∀ n < 58, isDigit (Char.ofNat n) = true → Char.ofNat n ∈ numeralMarks := by decide
  have small : c.toNat < 58 := by
    simp only [isDigit, Bool.and_eq_true, decide_eq_true_eq] at digit
    exact Nat.lt_succ_of_le digit.2
  have member := checked c.toNat small
  rw [Char.ofNat_toNat] at member
  exact member digit

theorem mem_numeralMarks_of_startsNumeral {c : Char} {rest : List Char}
    (starts : startsNumeral (c :: rest) = true) : c ∈ numeralMarks := by
  by_cases plus : c = '+'
  · simp [plus, numeralMarks]
  by_cases minus : c = '-'
  · simp [minus, numeralMarks]
  rw [startsNumeral, splitSign_of_ne ⟨plus, minus⟩] at starts
  by_cases point : c = '.'
  · simp [point, numeralMarks]
  rw [startsUnsigned_of_ne point] at starts
  exact mem_numeralMarks_of_isDigit starts

/-- What is checked for each character that a numeral can begin with. -/
theorem eq_false_of_mem_numeralMarks {property : Char → Bool}
    (never : numeralMarks.any property = false) {c : Char} (mark : c ∈ numeralMarks) :
    property c = false :=
  Bool.eq_false_iff.mpr (List.any_eq_false.mp never c mark)

theorem isSome_someDigits? (c : Char) (rest : List Char) :
    (someDigits? (splitDigits (c :: rest)).1).isSome = isDigit c := by
  cases digit : isDigit c with
  | true => simp [splitDigits_cons digit, someDigits?]
  | false => simp [splitDigits_of_not_isDigit digit, someDigits?]

/-- What begins like a numeral without its sign, and with no digit, is a fraction. -/
theorem isSome_splitFraction {c : Char} (other : isDigit c = false) (rest : List Char) :
    (splitFraction (c :: rest)).1.isSome = startsUnsigned (c :: rest) := by
  rw [splitFraction_eq, isSome_introduced, fractionBody]
  by_cases point : c = '.'
  · subst point
    cases rest with
    | nil => rfl
    | cons d rest => exact isSome_someDigits? d rest
  · rw [startsUnsigned_of_ne point, other, beq_eq_false_iff_ne.mpr point, Bool.false_and]

namespace Numeral

theorem isMissing_splitUnscaled (text : List Char) :
    (splitUnscaled text).1.isMissing = !startsNumeral text := by
  unfold splitUnscaled isMissing startsNumeral
  dsimp only
  cases (splitSign text).2 with
  | nil => rfl
  | cons c rest =>
    cases digit : isDigit c with
    | true =>
      rw [startsUnsigned_of_ne (ne_of_isDigit digit (by decide)), digit, splitDigits_cons digit]
      rfl
    -- Without a digit there is no whole part, and all depends on the fraction.
    | false =>
      rw [splitDigits_of_not_isDigit digit, ← isSome_splitFraction digit, Option.not_isSome]
      rfl

theorem read?_eq_ite (text : List Char) :
    read? text = if startsNumeral text then some (splitScaled text) else none := by
  rw [read?_eq, isMissing_splitUnscaled]
  cases startsNumeral text <;> rfl

theorem read?_eq_none_of_not_mem {c : Char} (other : c ∉ numeralMarks) (rest : List Char) :
    read? (c :: rest) = none := by
  rw [read?_eq_ite, if_neg]
  exact fun starts => other (mem_numeralMarks_of_startsNumeral starts)

end Numeral

/-! A part that is put before a text is read to its end, and on into the text. -/

theorem splitSign_signed {text : List Char} (unsigned : (splitSign text).1 = none)
    (sign : Option Sign) :
    splitSign ((sign.map Sign.char).toList ++ text) = (sign, text) := by
  cases sign with
  | none =>
    have whole := splitSign_append text
    rw [unsigned] at whole
    exact Prod.ext unsigned whole
  | some sign => cases sign <;> rfl

theorem splitDigits_append_left {digits : List Char} (all : ∀ c ∈ digits, isDigit c = true)
    (rest : List Char) :
    splitDigits (digits ++ rest) = (digits ++ (splitDigits rest).1, (splitDigits rest).2) := by
  unfold splitDigits
  rw [List.takeWhile_append_of_pos all, List.dropWhile_append_of_pos all]

theorem splitFraction_append_left {digits : List Char} (formed : IsDigits digits)
    (rest : List Char) :
    splitFraction ('.' :: digits ++ rest) =
      (some (digits ++ (splitDigits rest).1), (splitDigits rest).2) := by
  rw [splitFraction_eq, List.cons_append]
  apply introduced_eq_some rfl
  rw [fractionBody, splitDigits_append_left formed.2, someDigits?_of_isDigits formed]

theorem splitSign_of_isDigits {digits : List Char} (formed : IsDigits digits) (rest : List Char) :
    (splitSign (digits ++ rest)).1 = none := by
  obtain ⟨some_digit, all⟩ := formed
  cases digits with
  | nil => exact absurd rfl some_digit
  | cons c digits =>
    have digit := all c List.mem_cons_self
    have unsigned : c ≠ '+' ∧ c ≠ '-' :=
      ⟨ne_of_isDigit digit (by decide), ne_of_isDigit digit (by decide)⟩
    rw [List.cons_append, splitSign_of_ne unsigned]

theorem splitScale_append_left {scale : Scale} (formed : scale.IsWellFormed) (rest : List Char) :
    splitScale (scale.spelling ++ rest) =
      (some { scale with digits := scale.digits ++ (splitDigits rest).1 }, (splitDigits rest).2) := by
  have introducing : (scale.letter == 'e' || scale.letter == 'E') = true := by
    simpa using formed.letter
  rw [splitScale_eq, Scale.spelling, List.cons_append, List.cons_append, List.append_assoc]
  apply introduced_eq_some introducing
  rw [scaleBody, splitSign_signed (splitSign_of_isDigits formed.digits rest)]
  dsimp only
  rw [splitDigits_append_left formed.digits.2, someDigits?_of_isDigits formed.digits]
  rfl

/-- A power of ten continues neither the whole part nor the fraction. -/
theorem splitDigits_scale {scale : Scale} (formed : scale.IsWellFormed) (rest : List Char) :
    splitDigits (scale.spelling ++ rest) = ([], scale.spelling ++ rest) := by
  apply splitDigits_of_not_isDigit
  obtain letter | letter := formed.letter <;> rw [letter] <;> rfl

theorem splitFraction_scale {scale : Scale} (formed : scale.IsWellFormed) (rest : List Char) :
    splitFraction (scale.spelling ++ rest) = (none, scale.spelling ++ rest) := by
  rw [splitFraction_eq]
  apply introduced_of_isNone
  obtain letter | letter := formed.letter <;> rw [letter] <;> rfl

namespace Numeral

/-- Reading goes on into a text behind the last digit of a numeral. -/
def resume (numeral : Numeral) (rest : List Char) : Numeral × List Char :=
  let digits := splitDigits rest
  -- The digits go to the last part, and only parts that come after it can follow them.
  match numeral.scale, numeral.fraction with
  | some scale, _ =>
    ({ numeral with scale := some { scale with digits := scale.digits ++ digits.1 } }, digits.2)
  | none, some fraction =>
    let scale := splitScale digits.2
    ({ numeral with fraction := some (fraction ++ digits.1), scale := scale.1 }, scale.2)
  | none, none =>
    let fraction := splitFraction digits.2
    let scale := splitScale fraction.2
    (⟨numeral.sign, numeral.whole ++ digits.1, fraction.1, scale.1⟩, scale.2)

/-- The characters of a numeral between its whole part and its power of ten. -/
def fractionSpelling (numeral : Numeral) : List Char := (numeral.fraction.map ('.' :: ·)).getD []

def scaleSpelling (numeral : Numeral) : List Char := (numeral.scale.map Scale.spelling).getD []

theorem splitSign_spelling {numeral : Numeral} (formed : numeral.IsWellFormed) (rest : List Char) :
    splitSign ((numeral.sign.map Sign.char).toList ++
        (numeral.whole ++ (numeral.fractionSpelling ++ rest))) =
      (numeral.sign, numeral.whole ++ (numeral.fractionSpelling ++ rest)) := by
  apply splitSign_signed
  by_cases some_digit : numeral.whole = []
  -- Then the point comes first, and it is no sign either.
  · have fractional := formed.present.resolve_left (not_not_intro some_digit)
    obtain ⟨digits, fraction⟩ := Option.isSome_iff_exists.mp fractional
    rw [some_digit, fractionSpelling, fraction]
    rfl
  · exact splitSign_of_isDigits ⟨some_digit, formed.whole⟩ _

theorem splitUnscaled_of_fraction {numeral : Numeral} (formed : numeral.IsWellFormed)
    {digits : List Char} (fraction : numeral.fraction = some digits) (rest : List Char) :
    splitUnscaled ((numeral.sign.map Sign.char).toList ++
        (numeral.whole ++ (numeral.fractionSpelling ++ rest))) =
      (⟨numeral.sign, numeral.whole, some (digits ++ (splitDigits rest).1), none⟩,
        (splitDigits rest).2) := by
  have point : splitDigits (numeral.fractionSpelling ++ rest) =
      ([], numeral.fractionSpelling ++ rest) := by
    rw [fractionSpelling, fraction]
    exact splitDigits_of_not_isDigit (by decide) _
  have fractional : splitFraction (numeral.fractionSpelling ++ rest) =
      (some (digits ++ (splitDigits rest).1), (splitDigits rest).2) := by
    rw [fractionSpelling, fraction]
    exact splitFraction_append_left (formed.fraction digits fraction) rest
  unfold splitUnscaled
  dsimp only
  rw [splitSign_spelling formed]
  dsimp only
  rw [splitDigits_append_left formed.whole, point]
  dsimp only
  rw [fractional, List.append_nil]

theorem splitUnscaled_of_no_fraction {numeral : Numeral} (formed : numeral.IsWellFormed)
    (fraction : numeral.fraction = none) (rest : List Char) :
    splitUnscaled ((numeral.sign.map Sign.char).toList ++
        (numeral.whole ++ (numeral.fractionSpelling ++ rest))) =
      (⟨numeral.sign, numeral.whole ++ (splitDigits rest).1,
        (splitFraction (splitDigits rest).2).1, none⟩, (splitFraction (splitDigits rest).2).2) := by
  have nothing : numeral.fractionSpelling = [] := by
    rw [fractionSpelling, fraction]
    rfl
  unfold splitUnscaled
  dsimp only
  rw [splitSign_spelling formed]
  dsimp only
  rw [nothing, List.nil_append, splitDigits_append_left formed.whole]

theorem spelling_append_eq (numeral : Numeral) (text : List Char) :
    numeral.spelling ++ text = (numeral.sign.map Sign.char).toList ++ (numeral.whole ++
      (numeral.fractionSpelling ++ (numeral.scaleSpelling ++ text))) := by
  simp only [spelling, fractionSpelling, scaleSpelling, List.append_assoc]

theorem splitScaled_spelling_append {numeral : Numeral} (formed : numeral.IsWellFormed)
    (rest : List Char) : splitScaled (numeral.spelling ++ rest) = numeral.resume rest := by
  rw [spelling_append_eq]
  unfold splitScaled resume scaleSpelling
  obtain ⟨sign, whole, fraction, scale⟩ := numeral
  cases scale with
  | some scale =>
    have exponent := formed.scale scale rfl
    cases fraction with
    | some digits =>
      dsimp only
      rw [splitUnscaled_of_fraction formed rfl]
      simp only [Option.map_some, Option.getD_some]
      rw [splitDigits_scale exponent, splitScale_append_left exponent]
      simp
    | none =>
      dsimp only
      rw [splitUnscaled_of_no_fraction formed rfl]
      simp only [Option.map_some, Option.getD_some]
      rw [splitDigits_scale exponent, splitFraction_scale exponent, splitScale_append_left exponent]
      simp
  | none =>
    cases fraction with
    | some digits =>
      dsimp only
      rw [splitUnscaled_of_fraction formed rfl]
      rfl
    | none =>
      dsimp only
      rw [splitUnscaled_of_no_fraction formed rfl]
      rfl

theorem isMissing_spelling_append {numeral : Numeral} (formed : numeral.IsWellFormed)
    (rest : List Char) : (splitUnscaled (numeral.spelling ++ rest)).1.isMissing = false := by
  rw [spelling_append_eq]
  cases fraction : numeral.fraction with
  | some digits =>
    rw [splitUnscaled_of_fraction formed fraction, isMissing]
    exact Bool.and_false _
  | none =>
    have some_digit : numeral.whole ≠ [] := formed.present.resolve_right (by simp [fraction])
    rw [splitUnscaled_of_no_fraction formed fraction, isMissing]
    simp [some_digit]

theorem startsNumeral_spelling_append {numeral : Numeral} (formed : numeral.IsWellFormed)
    (rest : List Char) : startsNumeral (numeral.spelling ++ rest) = true := by
  have present := isMissing_spelling_append formed rest
  rwa [isMissing_splitUnscaled, Bool.not_eq_false'] at present

/-- A well-formed numeral is read wherever it stands, and perhaps more behind it. -/
theorem read?_spelling_append {numeral : Numeral} (formed : numeral.IsWellFormed)
    (rest : List Char) : read? (numeral.spelling ++ rest) = some (numeral.resume rest) := by
  rw [read?_eq, isMissing_spelling_append formed, if_neg Bool.false_ne_true,
    splitScaled_spelling_append formed]

/-- Where neither digits nor a fraction follow, only a power of ten can. -/
theorem resume_of_ends {numeral : Numeral} {rest : List Char}
    (no_digit : splitDigits rest = ([], rest)) (no_fraction : splitFraction rest = (none, rest)) :
    numeral.resume rest =
      if numeral.scale.isSome then (numeral, rest)
      else ({ numeral with scale := (splitScale rest).1 }, (splitScale rest).2) := by
  obtain ⟨sign, whole, fraction, scale⟩ := numeral
  cases scale with
  | some scale => simp [resume, no_digit]
  | none => cases fraction <;> simp [resume, no_digit, no_fraction]

theorem resume_eq_self {numeral : Numeral} {rest : List Char}
    (no_digit : splitDigits rest = ([], rest)) (no_fraction : splitFraction rest = (none, rest))
    (no_scale : numeral.scale = none → (splitScale rest).1 = none) :
    numeral.resume rest = (numeral, rest) := by
  rw [resume_of_ends no_digit no_fraction]
  split
  · rfl
  next absent =>
    have missing : numeral.scale = none := Option.not_isSome_iff_eq_none.mp absent
    have whole := splitScale_append rest
    rw [no_scale missing] at whole ⊢
    rw [← missing]
    exact Prod.ext rfl whole

theorem resume_nil (numeral : Numeral) : numeral.resume [] = (numeral, []) :=
  resume_eq_self rfl rfl fun _ => rfl

theorem resume_length_le (numeral : Numeral) (rest : List Char) :
    (numeral.resume rest).2.length ≤ rest.length := by
  have digits := splitDigits_length_le rest
  unfold resume
  split
  · exact digits
  · exact Nat.le_trans (splitScale_isLocal.length_le _) digits
  · exact Nat.le_trans (splitScale_isLocal.length_le _)
      (Nat.le_trans (splitFraction_isLocal.length_le _) digits)

/-- The numeral begins the text, and no longer one does. -/
structure IsLongestIn (text : List Char) (numeral : Numeral) : Prop where
  isWellFormed : numeral.IsWellFormed
  begins : numeral.spelling <+: text
  length_le (other : Numeral) (formed : other.IsWellFormed) (begins : other.spelling <+: text) :
    other.spelling.length ≤ numeral.spelling.length

theorem isLongestIn_of_read? {text rest : List Char} {numeral : Numeral}
    (found : read? text = some (numeral, rest)) : numeral.IsLongestIn text where
  isWellFormed := isWellFormed_of_read? found
  begins := ⟨rest, spelling_append_of_read? found⟩
  length_le other formed begins := by
    -- Reading passes over the other numeral, so it leaves no more than stands behind that one.
    obtain ⟨behind, parts⟩ := begins
    have lengths := congrArg List.length ((spelling_append_of_read? found).trans parts.symm)
    rw [← parts, read?_spelling_append formed] at found
    have shorter : rest.length ≤ behind.length := by
      have bound := other.resume_length_le behind
      rwa [Option.some.inj found] at bound
    simp only [List.length_append] at lengths
    omega

/-- No two well-formed numerals are written alike. -/
theorem eq_of_spelling_eq {first second : Numeral} (formed : first.IsWellFormed)
    (second_formed : second.IsWellFormed) (same : first.spelling = second.spelling) :
    first = second := by
  have read := read?_spelling_append formed []
  rw [same, read?_spelling_append second_formed, resume_nil, resume_nil] at read
  exact (congrArg Prod.fst (Option.some.inj read)).symm

/-- The reader finds the longest numeral at the start of a text, if there is one. -/
theorem exists_read?_eq_some_iff {text : List Char} {numeral : Numeral} :
    (∃ rest, read? text = some (numeral, rest)) ↔ numeral.IsLongestIn text := by
  constructor
  · rintro ⟨rest, found⟩
    exact isLongestIn_of_read? found
  · rintro ⟨formed, begins, longest⟩
    obtain ⟨behind, parts⟩ := begins
    obtain ⟨read, after, found⟩ : ∃ read after, read? text = some (read, after) :=
      ⟨_, _, by rw [← parts, read?_spelling_append formed]⟩
    -- What is read takes in the numeral, and as nothing longer begins the text it is the numeral.
    have other := isLongestIn_of_read? found
    have same_length := Nat.le_antisymm (other.length_le numeral formed ⟨behind, parts⟩)
      (longest read other.isWellFormed other.begins)
    have within := List.prefix_of_prefix_length_le ⟨behind, parts⟩ other.begins
      (Nat.le_of_eq same_length)
    obtain rfl := eq_of_spelling_eq formed other.isWellFormed (within.eq_of_length same_length)
    exact ⟨after, found⟩

end Numeral

end Portability.Decimal
