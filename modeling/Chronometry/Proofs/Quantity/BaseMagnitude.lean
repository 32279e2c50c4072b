import Chronometry.Proofs.Binary64.Overflow
import Chronometry.Quantity.Conversion

/-!
# Magnitudes by way of the base unit

A magnitude is converted to another unit by way of the base unit of its dimension.  The product with
the size of its own unit is rounded, and so is the quotient by the size of the other one.  Neither
rounding turns an order round, but each of them can lose one.  An amount therefore keeps its order
with an amount of the other unit where no rounding takes place on the way to the base unit, or where
the two amounts are further apart than both roundings err together.
-/

namespace Chronometry

open Binary64

namespace Measure

/-- The size of a unit in quanta of the base unit, as the format holds it. -/
def quanta (unit : Measure) : Nat :=
  roundQuanta (unit.hundredths * quantaPerOne) 100

theorem factor_standsAt_quanta (unit : Measure) : unit.factor.StandsAt unit.quanta := by
  have every : ∀ unit ∈ all, unit.factor.StandsAt unit.quanta := by decide +kernel
  exact every unit unit.mem_all

/-- The base unit is the smallest one. -/
theorem quantaPerOne_le_quanta (unit : Measure) : quantaPerOne ≤ unit.quanta := by
  have every : ∀ unit ∈ all, quantaPerOne ≤ unit.quanta := by decide +kernel
  exact every unit unit.mem_all

theorem quanta_pos (unit : Measure) : 0 < unit.quanta :=
  Nat.lt_of_lt_of_le quantaPerOne_pos unit.quantaPerOne_le_quanta

end Measure

namespace Quantity

variable {unit target : Measure} {x : Binary64} {p q : Int} {size targetSize : Nat}

/-! ## Positions -/

/-- The position of a magnitude in the base unit, at the limit when it lies beyond. -/
def basePosition (position : Int) (size : Nat) : Int :=
  cut (rounded (position * size) quantaPerOne)

/-- The position of a base magnitude in a unit.  What is infinite stays so. -/
def fromBase (base : Int) (size : Nat) : Int :=
  if base.natAbs < quantaLimit then rounded (base * quantaPerOne) size else base

theorem basePosition_neg (position : Int) (size : Nat) :
    basePosition (-position) size = -basePosition position size := by
  rw [basePosition, Int.neg_mul, rounded_neg _ quantaPerOne_pos, cut_neg, basePosition]

theorem fromBase_neg (base : Int) (positive : 0 < size) :
    fromBase (-base) size = -fromBase base size := by
  unfold fromBase
  rw [Int.natAbs_neg, Int.neg_mul, rounded_neg _ positive]
  split <;> rfl

theorem position?_base (standing : x.StandsAt p) :
    (x * unit.factor).position? = some (basePosition p unit.quanta) :=
  position?_mul standing unit.factor_standsAt_quanta

theorem kept_basePosition (position : Int) (size : Nat) :
    Kept (basePosition position size).natAbs :=
  kept_cut (kept_rounded _ _)

theorem basePosition_mono (ordered : p ≤ q) : basePosition p size ≤ basePosition q size :=
  cut_mono
    (rounded_mono quantaPerOne_pos (Int.mul_le_mul_of_nonneg_right ordered (Int.natCast_nonneg _)))

/-- A unit is no smaller than the base unit, so that its magnitudes do not overflow. -/
theorem natAbs_rounded_quotient_lt {base : Int} (kept : Kept base.natAbs)
    (within : base.natAbs < quantaLimit) (large : quantaPerOne ≤ size) :
    (rounded (base * quantaPerOne) size).natAbs < quantaLimit := by
  have positive : 0 < size := Nat.lt_of_lt_of_le quantaPerOne_pos large
  apply Nat.lt_of_le_of_lt (natAbs_rounded_le kept positive _) within
  rw [Int.natAbs_mul, Int.natAbs_natCast]
  exact Nat.mul_le_mul_left _ large

theorem position?_converted (standing : x.StandsAt p) :
    (x * unit.factor / target.factor).position? =
      some (fromBase (basePosition p unit.quanta) target.quanta) := by
  rw [position?_div (position?_base standing) target.factor_standsAt_quanta target.quanta_pos,
    fromBase]
  split
  next within =>
    rw [cut_of_natAbs_lt]
    exact natAbs_rounded_quotient_lt (kept_basePosition _ _) within target.quantaPerOne_le_quanta
  next => rfl

/-! ## The order in base units -/

/-- A magnitude below a converted one is not above it in the base unit. -/
theorem basePosition_le_of_lt_fromBase (kept : Kept p.natAbs) (within : p.natAbs < quantaLimit)
    (positive : 0 < size) (less : p < fromBase (basePosition q targetSize) size) :
    basePosition p size ≤ basePosition q targetSize := by
  have limited := natAbs_cut_le (rounded (q * targetSize) quantaPerOne)
  unfold fromBase at less
  split at less
  next finite =>
    have product : p * size < basePosition q targetSize * quantaPerOne := by
      apply Int.not_le.mp
      intro above
      exact Int.not_le.mpr less (rounded_le kept positive above)
    have below :=
      cut_mono (rounded_le (kept_basePosition q targetSize) quantaPerOne_pos (Int.le_of_lt product))
    rwa [cut_of_natAbs_lt finite] at below
  next =>
    have atMost := natAbs_cut_le (rounded (p * size) quantaPerOne)
    unfold basePosition at *
    omega

/-- A magnitude above a converted one is not below it in the base unit: the opposite ones are the
other way round. -/
theorem le_basePosition_of_fromBase_lt (kept : Kept p.natAbs) (within : p.natAbs < quantaLimit)
    (positive : 0 < size) (greater : fromBase (basePosition q targetSize) size < p) :
    basePosition q targetSize ≤ basePosition p size := by
  rw [← Int.natAbs_neg] at kept within
  apply Int.neg_le_neg_iff.mp
  rw [← basePosition_neg, ← basePosition_neg]
  apply basePosition_le_of_lt_fromBase kept within positive
  rw [basePosition_neg, fromBase_neg _ positive]
  exact Int.neg_lt_neg greater

/-! ## The order of the amounts -/

theorem compare_eq_compare {m n a b : Int} (less : a < b -> m < n) (same : a = b -> m = n)
    (greater : b < a -> n < m) :
    compare m n = compare a b := by
  rcases Int.lt_trichotomy a b with below | equal | above
  · rw [Int.compare_eq_lt.mpr below, Int.compare_eq_lt.mpr (less below)]
  · rw [Int.compare_eq_eq.mpr equal, Int.compare_eq_eq.mpr (same equal)]
  · rw [Int.compare_eq_gt.mpr above, Int.compare_eq_gt.mpr (greater above)]

theorem compare_mul_right (m n : Int) (positive : 0 < size) :
    compare (m * size) (n * size) = compare m n := by
  have scale : (0 : Int) < size := Int.natCast_pos.mpr positive
  apply compare_eq_compare
  · intro below
    exact Int.mul_lt_mul_of_pos_right below scale
  · intro same
    rw [same]
  · intro above
    exact Int.mul_lt_mul_of_pos_right above scale

/-- Two roundings err by less than one part in `2 ^ 52` and a quantum of the unit. -/
theorem natAbs_rounded_twice_sub_lt {amount : Int} {distance : Nat} (large : quantaPerOne ≤ size)
    (far : amount.natAbs + Nat.pow 2 52 * size ≤ Nat.pow 2 52 * distance) :
    (rounded (rounded amount quantaPerOne * quantaPerOne) size * size - amount).natAbs <
      distance := by
  have positive : 0 < size := Nat.lt_of_lt_of_le quantaPerOne_pos large
  by_cases none : amount = 0
  · rw [none] at far
    rw [none, rounded_zero quantaPerOne_pos, Int.zero_mul, rounded_zero positive, Int.zero_mul]
    simp only [Nat.pow_eq] at far
    omega
  have first := rounded_error_cases amount quantaPerOne_pos
  have second := rounded_error_cases (rounded amount quantaPerOne * quantaPerOne) positive
  generalize rounded (rounded amount quantaPerOne * quantaPerOne) size * size = back at *
  generalize rounded amount quantaPerOne * quantaPerOne = there at *
  generalize quantaPerOne = one at *
  simp only [Nat.pow_eq] at *
  omega

/-- A rounded magnitude is on the side of an amount on which it is further away than the roundings
err. -/
theorem compare_of_near {back : Int} (positive : 0 < size)
    (near : (back * size - q).natAbs < (p * size - q).natAbs) :
    compare p back = compare (p * size) q := by
  rw [← compare_mul_right p back positive]
  apply compare_eq_compare
  · intro below
    omega
  · intro same
    omega
  · intro above
    omega

/-- Amounts that are further apart than that keep their order, unless both lie beyond one limit. -/
theorem compare_fromBase_of_apart (within : p.natAbs < quantaLimit) (large : quantaPerOne ≤ size)
    (unlike : basePosition p size ≠ basePosition q targetSize)
    (far : (q * targetSize).natAbs + Nat.pow 2 52 * size ≤
      Nat.pow 2 52 * (p * size - q * targetSize).natAbs) :
    compare p (fromBase (basePosition q targetSize) size) =
      compare (p * size) (q * targetSize) := by
  unfold fromBase
  unfold basePosition at *
  split
  next finite =>
    rw [eq_of_natAbs_cut_lt finite]
    exact compare_of_near (Nat.lt_of_lt_of_le quantaPerOne_pos large)
      (natAbs_rounded_twice_sub_lt large far)
  next infinite =>
    -- The infinity is on the side of its amount, or the other amount would be beyond the same
    -- limit.
    have ordered {first second : Int} (below : first ≤ second) :=
      cut_mono (rounded_mono quantaPerOne_pos below)
    have left := natAbs_cut_le (rounded (p * size) quantaPerOne)
    have right := natAbs_cut_le (rounded (q * targetSize) quantaPerOne)
    apply compare_eq_compare
    · intro below
      have := ordered (Int.le_of_lt below)
      omega
    · intro same
      exact absurd (same ▸ rfl) unlike
    · intro above
      have := ordered (Int.le_of_lt above)
      omega

/-- Amounts that are not rounded in the base unit lose their order only where they are as close
together as the quotient is rounded.  Base magnitudes that differ are further apart than that. -/
theorem eq_of_rounded_eq (positive : 0 < size)
    (left : basePosition p size * quantaPerOne = p * size)
    (right : basePosition q targetSize * quantaPerOne = q * targetSize)
    (apart : p * size = q * targetSize ∨ size < 2 * (p * size - q * targetSize).natAbs)
    (lost : rounded (q * targetSize) size = p) :
    p * size = q * targetSize := by
  apply apart.resolve_right
  intro far
  have different : basePosition p size ≠ basePosition q targetSize := by
    intro equal
    rw [equal, right] at left
    omega
  have separation := Nat.mul_le_mul_right quantaPerOne
    (separated (kept_basePosition p size) (kept_basePosition q targetSize) different)
  have distance : (basePosition p size - basePosition q targetSize).natAbs * quantaPerOne =
      (p * size - q * targetSize).natAbs := by
    rw [← left, ← right, ← Int.sub_mul, Int.natAbs_mul, Int.natAbs_natCast]
  have amount : (basePosition q targetSize).natAbs * quantaPerOne = (q * targetSize).natAbs := by
    rw [← right, Int.natAbs_mul, Int.natAbs_natCast]
  have error := rounded_error_cases (q * targetSize) positive
  rw [Nat.mul_assoc, distance, amount] at separation
  rw [lost] at error
  simp only [Nat.pow_eq] at *
  omega

/-- Amounts that are not rounded in the base unit keep their order too, if they differ by more than
half a quantum of the unit. -/
theorem compare_fromBase_of_exact (kept : Kept p.natAbs) (positive : 0 < size)
    (finite : (basePosition q targetSize).natAbs < quantaLimit)
    (left : basePosition p size * quantaPerOne = p * size)
    (right : basePosition q targetSize * quantaPerOne = q * targetSize)
    (apart : p * size = q * targetSize ∨ size < 2 * (p * size - q * targetSize).natAbs) :
    compare p (fromBase (basePosition q targetSize) size) =
      compare (p * size) (q * targetSize) := by
  have lost := eq_of_rounded_eq positive left right apart
  rw [fromBase, if_pos finite, right]
  apply compare_eq_compare
  · intro below
    have atMost := le_rounded kept positive (Int.le_of_lt below)
    omega
  · intro equal
    rw [← equal, rounded_mul kept positive]
  · intro above
    have atLeast := rounded_le kept positive (Int.le_of_lt above)
    omega

end Quantity
end Chronometry
