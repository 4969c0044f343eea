import Mathlib.Data.Prod.Lex
import Mathlib.Order.Compare
import Portability.Decimal.Numeral

/-!
# The order of doubles

Each double that is a number has a rank in a total order: the sign and the size come first, and
between doubles of one sign the exponent comes before the mantissa. The comparisons of doubles are
those of their ranks. What is not a number has no rank, and no comparison with it holds. Infinity
has the last rank.
-/
namespace Portability.Decimal

open Float.Model (UnpackedFloat)

/-- The rank of a double: what kind of number it is, then exponent and mantissa. -/
abbrev Rank := ℤ ×ₗ ℤ ×ₗ ℤ

def Rank.of (kind exponent mantissa : ℤ) : Rank := toLex (kind, toLex (exponent, mantissa))

/-- Below zero a larger exponent or mantissa means an earlier rank. Both zeros share one. -/
def unpackedRank? : UnpackedFloat → Option Rank
  | .notANumber => none
  | .infinity .negative => some (.of (-2) 0 0)
  | .finite .negative mantissa exponent _ => some (.of (-1) (-exponent) (-mantissa))
  | .zero _ => some (.of 0 0 0)
  | .finite .positive mantissa exponent _ => some (.of 1 exponent mantissa)
  | .infinity .positive => some (.of 2 0 0)

theorem Rank.compare_of (kind exponent exponent' mantissa mantissa' : ℤ) :
    compare (Rank.of kind exponent mantissa) (Rank.of kind exponent' mantissa') =
      (compare exponent exponent').then (compare mantissa mantissa') := by
  change (compare kind kind).then _ = _
  rw [compare_eq_iff_eq.mpr rfl]
  rfl

theorem compare_natCast (m n : ℕ) : compare (m : ℤ) n = compare m n := by
  have cast : StrictMono fun n : ℕ => (n : ℤ) := fun _ _ => Int.ofNat_lt.mpr
  rw [← cmp_eq_compare, ← cmp_eq_compare]
  exact cast.cmp_map_eq m n

theorem compare_neg (m n : ℤ) : compare (-m) (-n) = (compare m n).swap := by
  have negate : StrictAnti fun n : ℤ => -n := fun _ _ => Int.neg_lt_neg
  rw [← cmp_eq_compare, ← cmp_eq_compare, cmp_swap]
  exact negate.cmp_map_eq m n

/-- Doubles compare as their ranks do, if both have one. -/
theorem compare_eq_compare_rank (left right : UnpackedFloat) :
    left.compare right =
      (unpackedRank? left).bind fun rank => (unpackedRank? right).map (compare rank) := by
  -- Doubles of different kinds are told apart before exponent and mantissa are looked at.
  rcases left with (_ | _) | _ | _ | ⟨_ | _, m, e, _⟩ <;>
    rcases right with (_ | _) | _ | _ | ⟨_ | _, n, f, _⟩ <;> try rfl
  · change some ((compare e f).then (compare m n)).swap =
      some (compare (Rank.of (-1) (-e) (-m)) (Rank.of (-1) (-f) (-n)))
    rw [Rank.compare_of, compare_neg, compare_neg, compare_natCast, Ordering.swap_then]
  · change some ((compare e f).then (compare m n)) =
      some (compare (Rank.of 1 e m) (Rank.of 1 f n))
    rw [Rank.compare_of, compare_natCast]

/-- Infinity has the last rank, and no finite double shares it. -/
theorem unpackedRank?_of_isFinite {unpacked : UnpackedFloat} (finite : unpacked.isFinite = true) :
    ∃ rank ∈ unpackedRank? unpacked, rank < Rank.of 2 0 0 := by
  cases unpacked with
  | notANumber | infinity sign => cases finite
  | zero sign => exact ⟨_, rfl, Prod.Lex.left _ _ (by decide)⟩
  | finite sign mantissa exponent _ =>
    cases sign <;> exact ⟨_, rfl, Prod.Lex.left _ _ (by decide)⟩

theorem le_of_mem_unpackedRank? {unpacked : UnpackedFloat} {rank : Rank}
    (ranked : rank ∈ unpackedRank? unpacked) : rank ≤ Rank.of 2 0 0 := by
  cases finite : unpacked.isFinite with
  | true =>
    obtain ⟨same, again, before⟩ := unpackedRank?_of_isFinite finite
    obtain rfl := Option.mem_unique ranked again
    exact before.le
  | false =>
    cases unpacked with
    | notANumber => cases ranked
    | zero | finite => cases finite
    | infinity sign =>
      cases sign with
      | negative =>
        have before : Rank.of (-2) 0 0 < Rank.of 2 0 0 := Prod.Lex.left _ _ (by decide)
        cases ranked
        exact before.le
      | positive =>
        cases ranked
        exact le_rfl

/-- The rank of a double in the order. -/
def rank? (value : Float) : Option Rank := unpackedRank? value.toModel.unpack

theorem le_iff_rank {left right : Float} :
    left ≤ right ↔ ∃ rank ∈ rank? left, ∃ other ∈ rank? right, rank ≤ other := by
  have compared : left ≤ right ↔
      (left.toModel.unpack.compare right.toModel.unpack).any (·.isLE) = true :=
    decide_eq_true_iff
  have ordered (rank other : Rank) : (compare rank other).isLE = true ↔ rank ≤ other :=
    Ordering.isLE_iff_ne_gt.trans compare_le_iff_le
  rw [compared, compare_eq_compare_rank, Option.any_bind, Option.any_eq_true]
  simp only [Function.comp_apply, Option.any_map, Option.any_eq_true, ordered, Option.mem_def,
    rank?]

theorem lt_iff_rank {left right : Float} :
    left < right ↔ ∃ rank ∈ rank? left, ∃ other ∈ rank? right, rank < other := by
  have compared : left < right ↔
      (left.toModel.unpack.compare right.toModel.unpack == some .lt) = true :=
    decide_eq_true_iff
  rw [compared, compare_eq_compare_rank, beq_iff_eq]
  simp only [Option.bind_eq_some_iff, Option.map_eq_some_iff, compare_lt_iff_lt, Option.mem_def,
    rank?]

theorem le_of_le_of_le {first second third : Float} (before : first ≤ second)
    (after : second ≤ third) : first ≤ third := by
  obtain ⟨rank, ranked, middle, between, ordered⟩ := le_iff_rank.mp before
  obtain ⟨same, again, last, ends, later⟩ := le_iff_rank.mp after
  obtain rfl := Option.mem_unique between again
  exact le_iff_rank.mpr ⟨rank, ranked, last, ends, ordered.trans later⟩

theorem lt_infinity_of_isFinite {value : Float} (finite : value.isFinite = true) :
    value < infinity := by
  obtain ⟨rank, ranked, before⟩ := unpackedRank?_of_isFinite finite
  exact lt_iff_rank.mpr ⟨rank, ranked, Rank.of 2 0 0, rfl, before⟩

/-- What infinity does not lie behind lies before nothing. -/
theorem not_lt_of_infinity_le {value : Float} (reached : infinity ≤ value) (other : Float) :
    ¬value < other := by
  intro before
  obtain ⟨last, ends, rank, ranked, behind⟩ := le_iff_rank.mp reached
  obtain ⟨same, again, further, bounded, ahead⟩ := lt_iff_rank.mp before
  obtain rfl := Option.mem_unique ranked again
  obtain rfl : last = Rank.of 2 0 0 := Option.mem_unique ends rfl
  have bound : further ≤ Rank.of 2 0 0 := le_of_mem_unpackedRank? bounded
  exact absurd (behind.trans_lt ahead) bound.not_gt

end Portability.Decimal
