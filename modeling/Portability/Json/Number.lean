import Portability.Decimal.Numeral

/-!
# Numbers in JSON text

A number is read in three steps that each may round. Its digits are gathered into a significand of
at most sixty-four bits, leaving out what no longer fits; the significand becomes a double; and the
double is multiplied or divided by a power of ten. The last digit can differ from the nearest
double. A number too large for a double has no value.
-/
namespace Portability.Json.Number

open Decimal Text

/-- Appends a digit, if the result still has at most sixty-four bits. -/
def appendDigit? (significand : Nat) (digit : Char) : Option Nat :=
  let extended := 10 * significand + digitValue digit
  if extended < Nat.pow 2 64 then some extended else none

/-- Appends digits while they fit, and counts the ones left over. -/
def appendDigits : Nat → List Char → Nat × Nat
  | significand, [] => (significand, 0)
  | significand, digit :: rest =>
    match appendDigit? significand digit with
    | some extended => appendDigits extended rest
    | none => (significand, rest.length + 1)

/-- Divides by `10 ^ places`, in steps of at most `10 ^ 308`. -/
def scaleDown (x : Float) (places : Nat) : Float :=
  if places ≤ 308 then x / nearest 1 places
  else if x == 0 then x
  else scaleDown (x / nearest 1 308) (places - 308)
termination_by places

/-- Multiplies by `10 ^ exponent`, if the result is finite. -/
def scale? (x : Float) (exponent : Int) : Option Float :=
  if exponent < 0 then some (scaleDown x exponent.natAbs)
  else if exponent ≤ 308 then
    let scaled := x * nearest 1 exponent
    if scaled.isInf then none else some scaled
  else if x == 0 then some x
  else none

/-- The largest exponent that is taken at its word. -/
def largestExponent : Nat := Nat.pow 2 31 - 1

/-- The value of a numeral, unless it is too large. -/
def value? (numeral : Numeral) : Option Float := do
  let fraction := numeral.fraction.getD []
  let (whole, left) := appendDigits 0 numeral.whole
  -- Once a digit before the point was left over, the next one may fit again.
  let (significand, dropped) := appendDigits whole fraction
  let places : Int := left - (fraction.length - dropped : Nat)
  let magnitude ← match numeral.scale with
    | some scale =>
      if largestExponent < digitsToNat scale.digits then
        if significand ≠ 0 ∧ scale.sign ≠ some .minus then none else some 0
      else scale? significand.toUInt64.toFloat (places + scale.value)
    | none => scale? significand.toUInt64.toFloat places
  return if numeral.sign = some .minus then -magnitude else magnitude

/-- JSON numbers have no plus sign in front, no superfluous zero, and digits before the point. -/
def isWellFormed (numeral : Numeral) : Bool :=
  numeral.sign ≠ some .plus &&
    match numeral.whole with
    | [] => false
    | ['0'] => true
    | first :: _ => first ≠ '0'

end Portability.Json.Number
