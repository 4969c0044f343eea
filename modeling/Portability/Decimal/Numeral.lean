import Portability.Text.Ascii

/-!
# Numerals

A numeral is a sign, digits, a fraction and a power of ten, each optional, with a digit somewhere
before the power. Reading one takes the longest numeral at the start of a text, and its value is
the double nearest to the number it writes.
-/
namespace Portability.Decimal

open Text

inductive Sign where
  | plus
  | minus
deriving DecidableEq, Repr

def Sign.char : Sign → Char
  | .plus => '+'
  | .minus => '-'

/-- The sign at the start of a text, and what follows it. -/
def splitSign : List Char → Option Sign × List Char
  | '+' :: rest => (some .plus, rest)
  | '-' :: rest => (some .minus, rest)
  | text => (none, text)

/-- The power of ten of a numeral: the letter that introduces it, its sign and its digits. -/
structure Scale where
  letter : Char
  sign : Option Sign
  digits : List Char
deriving DecidableEq, Repr

def Scale.spelling (scale : Scale) : List Char :=
  scale.letter :: (scale.sign.map Sign.char).toList ++ scale.digits

def Scale.value (scale : Scale) : Int :=
  if scale.sign = some .minus then -digitsToNat scale.digits else digitsToNat scale.digits

structure Numeral where
  sign : Option Sign
  whole : List Char
  fraction : Option (List Char)
  scale : Option Scale
deriving DecidableEq, Repr

/-- The characters of a numeral. -/
def Numeral.spelling (numeral : Numeral) : List Char :=
  (numeral.sign.map Sign.char).toList ++ numeral.whole ++
    (numeral.fraction.map ('.' :: ·)).getD [] ++ (numeral.scale.map Scale.spelling).getD []

/-- A point and at least one digit. -/
def splitFraction : List Char → Option (List Char) × List Char
  | '.' :: rest =>
    match splitDigits rest with
    | ([], _) => (none, '.' :: rest)
    | (digits, afterDigits) => (some digits, afterDigits)
  | text => (none, text)

/-- A letter e, perhaps a sign, and at least one digit. -/
def splitScale : List Char → Option Scale × List Char
  | letter :: rest =>
    if letter == 'e' || letter == 'E' then
      match splitDigits (splitSign rest).2 with
      | ([], _) => (none, letter :: rest)
      | (digits, afterDigits) => (some ⟨letter, (splitSign rest).1, digits⟩, afterDigits)
    else (none, letter :: rest)
  | [] => (none, [])

/-- The longest numeral without a power of ten at the start of a text. -/
def Numeral.readUnscaled? (text : List Char) : Option (Numeral × List Char) :=
  let (sign, unsigned) := splitSign text
  let (whole, afterWhole) := splitDigits unsigned
  let (fraction, rest) := splitFraction afterWhole
  if whole.isEmpty && fraction.isNone then none else some (⟨sign, whole, fraction, none⟩, rest)

/-- The longest numeral at the start of a text, and what follows it. -/
def Numeral.read? (text : List Char) : Option (Numeral × List Char) := do
  let (numeral, afterFraction) ← readUnscaled? text
  let (scale, rest) := splitScale afterFraction
  return ({ numeral with scale }, rest)

def infinity : Float := Float.ofBits 0x7FF0000000000000

def notANumber : Float := Float.ofBits 0x7FF8000000000000

/--
The double nearest to `mantissa * 10 ^ exponent`. Numbers from `10 ^ 309` on are infinite and
numbers below `10 ^ (-324)` are zero, whatever their digits.
-/
def nearest (mantissa : Nat) (exponent : Int) : Float :=
  let order := (Nat.toDigits 10 mantissa).length + exponent
  -- The bounds keep a short numeral with a huge exponent from becoming a huge number.
  if mantissa = 0 then 0
  else if 309 < order then infinity
  else if order < -323 then 0
  else Float.ofScientific mantissa (exponent < 0) exponent.natAbs

def Numeral.value (numeral : Numeral) : Float :=
  let fraction := numeral.fraction.getD []
  let scale := (numeral.scale.map Scale.value).getD 0
  let magnitude := nearest (digitsToNat (numeral.whole ++ fraction)) (scale - fraction.length)
  if numeral.sign = some .minus then -magnitude else magnitude

theorem splitSign_append (text : List Char) :
    ((splitSign text).1.map Sign.char).toList ++ (splitSign text).2 = text := by
  unfold splitSign
  split <;> rfl

theorem splitFraction_append (text : List Char) :
    ((splitFraction text).1.map ('.' :: ·)).getD [] ++ (splitFraction text).2 = text := by
  unfold splitFraction
  split
  · next rest =>
    split
    · rfl
    · next digits tail _ parts =>
      have whole := splitDigits_append rest
      rw [parts] at whole
      simpa using whole
  · rfl

theorem splitScale_append (text : List Char) :
    ((splitScale text).1.map Scale.spelling).getD [] ++ (splitScale text).2 = text := by
  unfold splitScale
  split
  · next letter rest =>
    split
    · split
      · rfl
      · next digits tail _ parts =>
        have whole := splitDigits_append (splitSign rest).2
        rw [parts] at whole
        have signed := splitSign_append rest
        rw [← whole] at signed
        simpa [Scale.spelling] using signed
    · rfl
  · rfl

/-- Reading splits the text: what was read and what is left make up the whole. -/
theorem Numeral.spelling_append_of_read? {text rest : List Char} {numeral : Numeral}
    (found : read? text = some (numeral, rest)) : numeral.spelling ++ rest = text := by
  simp only [read?, readUnscaled?, Option.bind_eq_bind, Option.bind_eq_some_iff] at found
  obtain ⟨⟨unscaled, afterFraction⟩, unscaled_found, rest_found⟩ := found
  split at unscaled_found
  · simp at unscaled_found
  · obtain ⟨rfl, rfl⟩ := unscaled_found
    obtain ⟨rfl, rfl⟩ := rest_found
    have signed := splitSign_append text
    have whole := splitDigits_append (splitSign text).2
    have fractional := splitFraction_append (splitDigits (splitSign text).2).2
    have scaled := splitScale_append (splitFraction (splitDigits (splitSign text).2).2).2
    simp only [spelling, List.append_assoc]
    rw [scaled, fractional, whole, signed]

/-- A numeral is at least one digit. -/
theorem Numeral.spelling_ne_nil_of_read? {text rest : List Char} {numeral : Numeral}
    (found : read? text = some (numeral, rest)) : numeral.spelling ≠ [] := by
  simp only [read?, readUnscaled?, Option.bind_eq_bind, Option.bind_eq_some_iff] at found
  obtain ⟨⟨unscaled, afterFraction⟩, unscaled_found, rest_found⟩ := found
  split at unscaled_found
  · simp at unscaled_found
  · next present =>
    obtain ⟨rfl, rfl⟩ := unscaled_found
    obtain ⟨rfl, rfl⟩ := rest_found
    intro empty
    simp only [spelling, List.append_eq_nil_iff] at empty
    apply present
    obtain ⟨⟨⟨_, whole⟩, fraction⟩, _⟩ := empty
    rw [whole]
    revert fraction
    cases (splitFraction (splitDigits (splitSign text).2).2).1 <;> simp

theorem Numeral.rest_length_lt_of_read? {text rest : List Char} {numeral : Numeral}
    (found : read? text = some (numeral, rest)) : rest.length < text.length := by
  have whole := congrArg List.length (spelling_append_of_read? found)
  have nonempty := List.length_pos_iff.mpr (spelling_ne_nil_of_read? found)
  simp only [List.length_append] at whole
  omega

end Portability.Decimal
