import Portability.Json.Basic
import Portability.Toml.Token

/-!
# Words as TOML values

A word that stands for a value is a truth value, a whole number, a number with a fraction or a
power of ten, or a moment. Moments have no use here and become unreadable values. Underscores may
stand between two digits.
-/
namespace Portability.Toml

open Decimal Text

/-- Removes underscores that stand between two digits; others are a fault. -/
def withoutUnderscores? (digit : Char → Bool) : List Char → Option (List Char)
  | [] => some []
  | [c] => if c = '_' then none else some [c]
  | c :: '_' :: d :: rest =>
    if digit c && digit d then (withoutUnderscores? digit (d :: rest)).map (c :: ·) else none
  | c :: rest => if c = '_' then none else (withoutUnderscores? digit rest).map (c :: ·)

/-- Whether digits are written without a superfluous zero in front. -/
def isPlainWhole : List Char → Bool
  | [] => false
  | ['0'] => true
  | first :: _ => first ≠ '0'

/-- The number written by digits in some base. -/
def wholeNumber? (base : Nat) (digits : List Char) : Option Nat :=
  if digits.isEmpty then none
  else digits.foldlM (fun total c =>
    (Json.hexValue? c).bind fun value =>
      if value < base then some (base * total + value) else none) 0

/-- A whole number as a double, if it fits into sixty-four bits with a sign. -/
def ofWhole? (negative : Bool) (magnitude : Nat) : Option Json :=
  if magnitude < Nat.pow 2 63 || (negative && magnitude == Nat.pow 2 63) then
    let value := nearest magnitude 0
    some (.number (if negative && magnitude ≠ 0 then -value else value))
  else none

/-- A number in base ten. One above the range of doubles is a fault, one below it is not. -/
def ofDecimal? (word : List Char) : Option Json := do
  let (numeral, rest) ← Numeral.read? (← withoutUnderscores? isDigit word)
  if !rest.isEmpty || !isPlainWhole numeral.whole then none
  else if numeral.fraction.isNone && numeral.scale.isNone then
    ofWhole? (numeral.sign == some .minus) (digitsToNat numeral.whole)
  else if numeral.value == infinity then none
  else return .number numeral.value

/-- A whole number in another base than ten. -/
def ofBase? (base : Nat) (digits : List Char) : Option Json := do
  ofWhole? false (← wholeNumber? base (← withoutUnderscores? Char.isAlphanum digits))

/-- The value that a word stands for. -/
def ofWord? (word : List Char) : Option Json :=
  match String.ofList word with
  | "true" => some (.boolean true)
  | "false" => some (.boolean false)
  | "inf" | "+inf" => some (.number infinity)
  | "-inf" => some (.number (-infinity))
  | "nan" | "+nan" | "-nan" => some (.number notANumber)
  | _ =>
    match word with
    | '0' :: 'x' :: digits => ofBase? 16 digits
    | '0' :: 'o' :: digits => ofBase? 8 digits
    | '0' :: 'b' :: digits => ofBase? 2 digits
    | _ => if isMoment word then some .unreadable else ofDecimal? word

end Portability.Toml
