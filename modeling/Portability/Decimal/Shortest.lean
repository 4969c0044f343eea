/-!
# The shortest decimal of a double

A finite double is a significand times a power of two. Every real number between the midpoints to
its two neighbours reads back as the same double, the midpoints themselves exactly when the
significand is even. The shortest decimal is the point of the coarsest grid of powers of ten that
reads back; of two such points on one grid the nearer is taken, and the upper one when they are
equally near.
-/
namespace Portability.Decimal

/-- What the sixty-four bits of a double stand for. -/
inductive Parts where
  | notANumber
  | infinite (negative : Bool)
  | finite (negative : Bool) (significand : Nat) (exponent : Int)
deriving DecidableEq, Repr

def parts (x : Float) : Parts :=
  let bits := x.toBits.toNat
  let negative := decide (Nat.pow 2 63 ≤ bits)
  let field : Nat := bits / Nat.pow 2 52 % Nat.pow 2 11
  let fraction := bits % Nat.pow 2 52
  if field = 2047 then
    if fraction = 0 then .infinite negative else .notANumber
  else if field = 0 then .finite negative fraction (-1074)
  else .finite negative (Nat.pow 2 52 + fraction) (field - 1075)

/-- A decimal `digits * 10 ^ exponent`. -/
structure Point where
  digits : Nat
  exponent : Int
deriving DecidableEq, Repr

/-- The power of ten `k` with `10 ^ k ≤ numerator / denominator < 10 ^ (k + 1)`. -/
def order (numerator denominator : Nat) : Int :=
  if denominator ≤ numerator then ((Nat.toDigits 10 (numerator / denominator)).length : Int) - 1
  else
    let reciprocal := (denominator + numerator - 1) / numerator
    Int.negOfNat (Nat.toDigits 10 (reciprocal - 1)).length

/--
The point of the grid `10 ^ grid` that reads back as `significand * 2 ^ exponent`, if there is one.
All lengths are in quarters of a unit of the significand: a midpoint is two of them away, and one
below a power of two.
-/
def gridPoint? (significand : Nat) (exponent grid : Int) : Option Point :=
  let scale := Nat.pow 2 exponent.toNat * Nat.pow 10 (-grid).toNat
  let unit := 4 * Nat.pow 2 (-exponent).toNat * Nat.pow 10 grid.toNat
  let value := 4 * significand * scale
  -- The doubles below a power of two lie twice as close together as those above it.
  let low := (4 * significand - if significand = Nat.pow 2 52 then 1 else 2) * scale
  let high := (4 * significand + 2) * scale
  let readsBack (digits : Nat) : Bool :=
    if significand % 2 = 0 then low ≤ digits * unit && digits * unit ≤ high
    else low < digits * unit && digits * unit < high
  let below := value / unit
  let above := below + 1
  let nearer := if value - below * unit < above * unit - value then below else above
  if readsBack nearer then some ⟨nearer, grid⟩
  else if readsBack below then some ⟨below, grid⟩
  else if readsBack above then some ⟨above, grid⟩
  else none

/-- The shortest decimal that reads back as `significand * 2 ^ exponent`, which is not zero. -/
def shortest (significand : Nat) (exponent : Int) : Point :=
  let top := order (significand * Nat.pow 2 exponent.toNat) (Nat.pow 2 (-exponent).toNat) + 1
  -- Seventeen digits tell any two doubles apart, and the first grid is there for a round-up to ten.
  match (List.range 18).findSome? fun finer : Nat =>
      gridPoint? significand exponent (top - finer) with
  | some point => point
  | none =>
    ⟨significand * Nat.pow 2 exponent.toNat * Nat.pow 5 (-exponent).toNat, -(-exponent).toNat⟩

end Portability.Decimal
