import Portability.Decimal.Shortest

/-!
# Numbers as text

A number is written with the fewest digits that read back as it, always in positional notation. In
reports a number is written as it was most likely authored, with at most six decimals.
-/
namespace Portability.Decimal

/-- A decimal in positional notation, without a power of ten. -/
def Point.text (point : Point) : List Char :=
  let digits := Nat.toDigits 10 point.digits
  let places := (-point.exponent).toNat
  if places = 0 then digits ++ List.replicate point.exponent.toNat '0'
  else
    -- At least one digit has to stand before the point.
    let padded := List.replicate (places + 1 - digits.length) '0' ++ digits
    padded.take (padded.length - places) ++ '.' :: padded.drop (padded.length - places)

/-- The text of a number. Minus zero keeps its sign. -/
def text (x : Float) : String :=
  let signed (negative : Bool) (magnitude : List Char) :=
    String.ofList (if negative then '-' :: magnitude else magnitude)
  match parts x with
  | .notANumber => "NaN"
  | .infinite negative => signed negative ['i', 'n', 'f']
  | .finite negative 0 _ => signed negative ['0']
  | .finite negative significand exponent => signed negative (shortest significand exponent).text

/-- The nearest whole number; a half goes away from zero. -/
def roundAway (x : Float) : Float :=
  match parts x with
  | .finite negative significand exponent =>
    if 0 ≤ exponent then x
    else
      let half := Nat.pow 2 (-exponent).toNat
      let magnitude := ((2 * significand + half) / (2 * half)).toUInt64.toFloat
      if negative then -magnitude else magnitude
  | _ => x

/-- A number as it was most likely authored: rounded to six decimals. -/
def authored (x : Float) : String :=
  match parts x with
  | .finite .. => text (roundAway (x * 1000000) / 1000000)
  | _ => text x

end Portability.Decimal
