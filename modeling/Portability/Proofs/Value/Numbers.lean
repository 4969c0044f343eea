import Portability.Proofs.Decimal.OfText
import Portability.Proofs.Value.Coverage

/-!
# Reading numbers

A number is read where a numeral starts, and the longest numeral there is taken. Behind it a percent
sign or a name belongs to the same token. A name that begins with the letter e and digits, perhaps
with a hyphen between, could also be a power of ten. It is one if the numeral has none yet.
-/
namespace Portability

/-- A number, with or without a unit. -/
def Lexeme.isMeasured : Lexeme → Bool
  | number _ | percentage _ | dimension .. => true
  | _ => false

namespace Lexer

open Text Decimal

/-- A name that is written as it reads, without escapes. -/
def IsPlain (unit : List Char) : Prop := ∀ c ∈ unit, isNameChar c = true ∧ c ≠ '\\'

instance (unit : List Char) : Decidable (IsPlain unit) :=
  decidable_of_iff (unit.all (fun c => isNameChar c && c != '\\') = true) (by simp [IsPlain])

/-- The letter e and a digit, perhaps with a hyphen between. -/
def startsScale : List Char → Bool
  | letter :: '-' :: c :: _ => (letter == 'e' || letter == 'E') && isDigit c
  | letter :: c :: _ => (letter == 'e' || letter == 'E') && isDigit c
  | _ => false

/-- The number whose characters are taken from the start of a text, if they are those of a number,
with the unit behind it. -/
def readNumeric? (text : List Char) : Option (Lexeme × List Char) :=
  let collected := Numeral.splitScaled text
  (ofText? collected.1.spelling).map fun value => readMeasured value collected.2

/-! Where a numeral starts, a number is read. -/

theorem next?_of_startsNumeral {text : List Char} (starts : startsNumeral text = true) :
    next? text =
      some (readMeasured (Numeral.splitScaled text).1.value (Numeral.splitScaled text).2) := by
  cases text with
  | nil => cases starts
  | cons c rest =>
    apply next?_of_numeral
    rw [Numeral.read?_eq_ite, if_pos starts]

theorem readNumeric?_eq_next? {text : List Char} (starts : startsNumeral text = true) :
    readNumeric? text = next? text := by
  have present : (Numeral.splitUnscaled text).1.isMissing = false := by
    rw [Numeral.isMissing_splitUnscaled, starts]
    rfl
  rw [next?_of_startsNumeral starts, readNumeric?,
    Numeral.ofText?_spelling (Numeral.splitScaled_isWellFormed present)]
  rfl

theorem isMeasured_readMeasured (value : Float) (text : List Char) :
    (readMeasured value text).1.isMeasured = true := by
  unfold readMeasured
  split
  · rfl
  · split <;> rfl

theorem skipLayout_of_startsNumeral {text : List Char} (starts : startsNumeral text = true) :
    skipLayout text = text := by
  cases text with
  | nil => cases starts
  | cons c rest =>
    have mark := mem_numeralMarks_of_startsNumeral starts
    have no_slash := @eq_false_of_mem_numeralMarks (· == '/') (by decide) c mark
    have visible : isBlank c = false := eq_false_of_mem_numeralMarks (by decide) mark
    exact skipLayout_of_visible visible (by rw [isPair, no_slash, Bool.false_and])

/-- A text that is one token. -/
theorem tokens_eq_singleton {text : List Char} {lexeme : Lexeme} (starts : skipLayout text = text)
    (found : next? text = some (lexeme, [])) : tokens text = [⟨lexeme, 0, text.length⟩] := by
  rw [← starts] at found
  rw [tokens, tokensFrom_of_found found, tokensFrom_nil, starts, Nat.sub_self]
  rfl

/-! A numeral with a unit behind it. -/

/-- What is read of a numeral and a text behind it. -/
theorem next?_spelling_append {numeral : Numeral} (formed : numeral.IsWellFormed)
    (rest : List Char) :
    next? (numeral.spelling ++ rest) =
      some (readMeasured (numeral.resume rest).1.value (numeral.resume rest).2) := by
  rw [next?_of_startsNumeral (Numeral.startsNumeral_spelling_append formed rest),
    Numeral.splitScaled_spelling_append formed]

theorem skipLayout_spelling_append {numeral : Numeral} (formed : numeral.IsWellFormed)
    (rest : List Char) : skipLayout (numeral.spelling ++ rest) = numeral.spelling ++ rest :=
  skipLayout_of_startsNumeral (Numeral.startsNumeral_spelling_append formed rest)

theorem tokens_spelling {numeral : Numeral} (formed : numeral.IsWellFormed) :
    tokens numeral.spelling = [⟨.number numeral.value, 0, numeral.spelling.length⟩] := by
  have visible := skipLayout_spelling_append formed []
  have found := next?_spelling_append formed []
  rw [List.append_nil] at visible found
  rw [Numeral.resume_nil] at found
  exact tokens_eq_singleton visible found

theorem tokens_spelling_percent {numeral : Numeral} (formed : numeral.IsWellFormed) :
    tokens (numeral.spelling ++ ['%']) =
      [⟨.percentage (numeral.value / 100), 0, (numeral.spelling ++ ['%']).length⟩] := by
  have found := next?_spelling_append formed ['%']
  rw [Numeral.resume_eq_self rfl rfl fun _ => rfl] at found
  exact tokens_eq_singleton (skipLayout_spelling_append formed _) found

theorem readName_of_isPlain {unit : List Char} (plain : IsPlain unit) :
    readName unit = (unit, []) := by
  induction unit with
  | nil => rfl
  | cons c rest ih =>
    obtain ⟨named, no_escape⟩ := plain c List.mem_cons_self
    rw [readName_cons no_escape named, ih fun c member => plain c (List.mem_cons_of_mem _ member)]

/-- In a name a power of ten has no plus sign. -/
theorem isSome_splitScale {unit : List Char} (plain : IsPlain unit) :
    (splitScale unit).1.isSome = startsScale unit := by
  rw [splitScale_eq]
  cases unit with
  | nil => rfl
  | cons letter rest =>
    rw [isSome_introduced, scaleBody]
    cases rest with
    | nil => exact Bool.and_false _
    | cons c rest =>
      have no_plus : c ≠ '+' := by
        rintro rfl
        exact absurd (plain '+' (by simp)).1 (by decide)
      -- A hyphen is taken for a sign, and the digit has to stand behind it.
      by_cases hyphen : c = '-'
      · subst hyphen
        cases rest with
        | nil => simp [splitSign, splitDigits, someDigits?, startsScale, isDigit]
        | cons d rest => simp [splitSign, isSome_someDigits?, startsScale]
      · rw [splitSign_of_ne ⟨no_plus, hyphen⟩]
        simp [isSome_someDigits?, startsScale, hyphen]

/-- A name begins with no character that continues a whole part or makes a percentage. -/
theorem exists_head_of_startsName {unit : List Char} (start : startsName unit = true) :
    ∃ c rest, unit = c :: rest ∧ isDigit c = false ∧ c ≠ '.' ∧ c ≠ '%' := by
  cases unit with
  | nil => cases start
  | cons c rest =>
    refine ⟨c, rest, rfl, ?_⟩
    -- A hyphen begins a name with what follows it, any other character by itself.
    by_cases hyphen : c = '-'
    · subst hyphen
      decide
    rw [startsName_of_ne hyphen] at start
    refine ⟨Bool.eq_false_iff.mpr fun digit => ?_, ?_, ?_⟩
    · have no_start : isNameStart c = false :=
        eq_false_of_mem_numeralMarks (by decide) (mem_numeralMarks_of_isDigit digit)
      rw [start] at no_start
      cases no_start
    · rintro rfl
      revert start
      decide
    · rintro rfl
      revert start
      decide

/-- Of a name only a power of ten can belong to the numeral before it. -/
theorem split_of_startsName {unit : List Char} (start : startsName unit = true) :
    splitDigits unit = ([], unit) ∧ splitFraction unit = (none, unit) := by
  obtain ⟨c, rest, rfl, no_digit, no_point, _⟩ := exists_head_of_startsName start
  refine ⟨splitDigits_of_not_isDigit no_digit rest, ?_⟩
  rw [splitFraction_eq]
  exact introduced_of_isNone (by simp [no_point])

theorem readMeasured_of_startsName (value : Float) {unit : List Char} (plain : IsPlain unit)
    (start : startsName unit = true) :
    readMeasured value unit = (.dimension value (String.ofList unit), []) := by
  obtain ⟨c, rest, rfl, _, _, no_percentage⟩ := exists_head_of_startsName start
  rw [readMeasured_of_ne no_percentage, if_pos start, readName_of_isPlain plain]

theorem readName_fst_length_le (text : List Char) : (readName text).1.length ≤ text.length := by
  fun_induction readName text with
  | case1 c rest tail ih => exact Nat.succ_le_succ (Nat.le_succ_of_le ih)
  | case2 => exact Nat.zero_le _
  | case3 c rest _ _ _ tail ih => exact Nat.succ_le_succ ih
  | case4 => exact Nat.zero_le _
  | case5 => exact Nat.zero_le _

/-- A unit is no longer than the text that it is read from. -/
theorem unit_length_le {value other : Float} {text unit : List Char}
    (measured : (readMeasured value text).1 = .dimension other (String.ofList unit)) :
    unit.length ≤ text.length := by
  unfold readMeasured at measured
  split at measured
  · cases measured
  · split at measured
    · have same := String.ofList_injective (Lexeme.dimension.inj measured).2
      rw [← same]
      exact readName_fst_length_le _
    · cases measured

theorem resume_unit {numeral : Numeral} {unit : List Char} (plain : IsPlain unit)
    (start : startsName unit = true) (alone : ¬(numeral.scale = none ∧ startsScale unit = true)) :
    numeral.resume unit = (numeral, unit) := by
  obtain ⟨no_digit, no_fraction⟩ := split_of_startsName start
  refine Numeral.resume_eq_self no_digit no_fraction fun missing => ?_
  rw [← Option.not_isSome_iff_eq_none, isSome_splitScale plain]
  exact fun scaled => alone ⟨missing, scaled⟩

/-- A numeral and a unit are one token, unless the unit begins with the power of ten that the
numeral lacks. -/
theorem tokens_spelling_unit {numeral : Numeral} (formed : numeral.IsWellFormed)
    {unit : List Char} (plain : IsPlain unit) (start : startsName unit = true) :
    tokens (numeral.spelling ++ unit) =
        [⟨.dimension numeral.value (String.ofList unit), 0, (numeral.spelling ++ unit).length⟩] ↔
      ¬(numeral.scale = none ∧ startsScale unit = true) := by
  have visible := skipLayout_spelling_append formed unit
  have found := next?_spelling_append formed unit
  constructor
  · rintro single ⟨no_scale, starts_scale⟩
    obtain ⟨scale, scaled⟩ :=
      Option.isSome_iff_exists.mp ((isSome_splitScale plain).trans starts_scale)
    obtain ⟨no_digit, no_fraction⟩ := split_of_startsName start
    rw [Numeral.resume_of_ends no_digit no_fraction, no_scale, if_neg (by simp)] at found
    rw [tokens, tokensFrom_of_found (visible.symm ▸ found)] at single
    -- The unit that is read lies behind the power of ten.
    have short : unit.length ≤ (splitScale unit).2.length :=
      unit_length_le (congrArg Token.lexeme (List.cons.inj single).1)
    have whole := congrArg List.length (splitScale_append unit)
    rw [scaled] at whole
    simp only [Option.map_some, Option.getD_some, Scale.spelling, List.length_append,
      List.length_cons] at whole
    omega
  · intro alone
    rw [resume_unit plain start alone, readMeasured_of_startsName numeral.value plain start]
      at found
    exact tokens_eq_singleton visible found

/-! A symbol is one character. -/

theorem named_ne_symbol (name : String) (rest : List Char) (c : Char) :
    (named name rest).1 ≠ .symbol c := by
  unfold named
  split
  · split <;> exact Lexeme.noConfusion
  · exact Lexeme.noConfusion

theorem readMarked_eq_symbol {mark c : Char} {tail rest : List Char}
    (marked : readMarked mark tail = (.symbol c, rest)) : mark = c ∧ tail = rest := by
  unfold readMarked at marked
  split at marked
  · cases marked
  · split at marked
    · cases marked
    · split at marked
      · cases marked
      · cases marked
        exact ⟨rfl, rfl⟩

theorem next?_eq_symbol {text rest : List Char} {c : Char}
    (found : next? text = some (.symbol c, rest)) : text = c :: rest := by
  obtain ⟨numeral, afterNumeral, _, parts⟩ | ⟨_, parts⟩ | ⟨mark, tail, rfl, parts⟩ :=
    next?_cases found
  · have measured := isMeasured_readMeasured numeral.value afterNumeral
    rw [parts] at measured
    cases measured
  · exact absurd (congrArg Prod.fst parts) (named_ne_symbol _ _ c)
  · obtain ⟨rfl, rfl⟩ := readMarked_eq_symbol parts
    rfl

theorem symbol_span {text : List Char} {token : Token} (member : token ∈ tokens text) {c : Char}
    (symbol : token.lexeme = .symbol c) :
    token.stop = token.start + 1 ∧ text[token.start]? = some c := by
  have tiles : Tiles [] text (tokens text) := tiles_tokensFrom rfl
  have span : token.IsSpanOf text := tiles.isSpanOf token member
  have read := span.read
  rw [symbol] at read
  have whole := next?_eq_symbol read
  have lengths := congrArg List.length whole
  rw [List.length_drop, List.length_cons, List.length_drop] at lengths
  have nonempty := span.nonempty
  have inside := span.inside
  refine ⟨by omega, ?_⟩
  rw [← Nat.add_zero token.start, ← List.getElem?_drop, whole]
  rfl

/--
Numbers are read by longest match. A numeral is one token with the value that it has as a whole text,
as a bare number would be; a percent sign behind it makes it a ratio, and a name behind it is its
unit, unless the name begins with the power of ten that the numeral lacks. Where a numeral starts,
the characters taken are always those of a number, so nothing but one character is ever a symbol.
-/
theorem numbers_read_longest :
    (∀ (text : List Char) (numeral : Numeral),
      (∃ rest, Numeral.read? text = some (numeral, rest)) ↔ numeral.IsLongestIn text) ∧
    (∀ numeral : Numeral, numeral.IsWellFormed → ∃ value,
      ofText? numeral.spelling = some value ∧
      tokens numeral.spelling = [⟨.number value, 0, numeral.spelling.length⟩] ∧
      (tokens numeral.spelling).map (fun token => (token.lexeme, token.start)) =
        (AuthoredValue.number value).tokens.map (fun token => (token.lexeme, token.start)) ∧
      tokens (numeral.spelling ++ ['%']) =
        [⟨.percentage (value / 100), 0, (numeral.spelling ++ ['%']).length⟩] ∧
      ∀ unit, IsPlain unit → startsName unit = true →
        (tokens (numeral.spelling ++ unit) =
            [⟨.dimension value (String.ofList unit), 0, (numeral.spelling ++ unit).length⟩] ↔
          ¬(numeral.scale = none ∧ startsScale unit = true))) ∧
    (∀ text, startsNumeral text = true → ∃ lexeme rest,
      readNumeric? text = some (lexeme, rest) ∧ next? text = some (lexeme, rest) ∧
        lexeme.isMeasured = true) ∧
    ∀ text, ∀ token ∈ tokens text, ∀ c, token.lexeme = .symbol c →
      token.stop = token.start + 1 ∧ text[token.start]? = some c := by
  refine ⟨fun text numeral => Numeral.exists_read?_eq_some_iff, fun numeral formed => ?_,
    fun text starts => ?_, fun text token member c symbol => symbol_span member symbol⟩
  · refine ⟨numeral.value, Numeral.ofText?_spelling formed, tokens_spelling formed, ?_,
      tokens_spelling_percent formed, fun unit plain start => tokens_spelling_unit formed plain start⟩
    rw [tokens_spelling formed]
    rfl
  · have found := next?_of_startsNumeral starts
    exact ⟨_, _, (readNumeric?_eq_next? starts).trans found, found, isMeasured_readMeasured _ _⟩

/-- Minus a half, times a hundred. -/
def negativeFifty : Numeral := ⟨some .minus, [], some ['5'], some ⟨'E', some .plus, ['2']⟩⟩

def one : Numeral := ⟨none, ['1'], none, none⟩

theorem numbers_read_longest_scaled :
    tokens "-.5E+2".toList = [⟨.number (-50), 0, 6⟩] ∧
    tokens "-.5E+2%".toList = [⟨.percentage (-50 / 100), 0, 7⟩] ∧
    tokens "-.5E+2e-3".toList = [⟨.dimension (-50) "e-3", 0, 9⟩] ∧
    tokens "1e-x".toList = [⟨.dimension 1 "e-x", 0, 4⟩] ∧
    tokens "1e-3".toList ≠ [⟨.dimension 1 "e-3", 0, 4⟩] ∧
    one.IsLongestIn "1e-x".toList ∧
    (∃ lexeme rest, readNumeric? "+.5.5".toList = some (lexeme, rest) ∧
      next? "+.5.5".toList = some (lexeme, rest) ∧ lexeme.isMeasured = true) ∧
    tokens "1.".toList = [⟨.number 1, 0, 1⟩, ⟨.symbol '.', 1, 2⟩] := by
  have fifty_formed : negativeFifty.IsWellFormed :=
    ⟨List.all_eq_true.mp (by decide), by rintro _ ⟨⟩; decide, .inr rfl,
      by rintro _ ⟨⟩; exact ⟨.inr rfl, by decide⟩⟩
  have one_formed : one.IsWellFormed :=
    ⟨List.all_eq_true.mp (by decide), by rintro _ ⟨⟩, .inl (by decide), by rintro _ ⟨⟩⟩
  obtain ⟨longest, alone, measured, _⟩ := numbers_read_longest
  obtain ⟨fifty, fifty_text, number, _, percentage, fifty_unit⟩ := alone negativeFifty fifty_formed
  obtain ⟨unity, one_text, _, _, _, one_unit⟩ := alone one one_formed
  obtain rfl : fifty = -50 := Option.some.inj (fifty_text.symm.trans (by decide +kernel))
  obtain rfl : unity = 1 := Option.some.inj (one_text.symm.trans (by decide +kernel))
  refine ⟨number, percentage, (fifty_unit ['e', '-', '3'] (by decide) (by decide)).mpr (by decide),
    (one_unit ['e', '-', 'x'] (by decide) (by decide)).mpr (by decide), fun single => ?_,
    (longest _ _).mp ⟨['e', '-', 'x'], by decide +kernel⟩, measured _ (by decide), by decide +kernel⟩
  exact (one_unit ['e', '-', '3'] (by decide) (by decide)).mp single (by decide)

end Lexer

end Portability
