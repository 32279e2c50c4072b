import Chronometry.Proofs.Binary64.Whole

/-!
# Separated numbers

Two different numbers are at least one part in `2 ^ 53` of either of them apart, because both lie on
the grid of the lesser one, and that one has no more than 53 bits on it.  Rounding errs by no more
than the same part.  A product with a whole factor is therefore never rounded beyond the exact
product of another number with that factor: a distance and an error grow alike.
-/

namespace Chronometry
namespace Binary64

/-- Different counts, one of which has at most 53 bits, are separated by a part in `2 ^ 53` of
either. -/
theorem separated_of_lt {m n : Nat} (few : min m n < Nat.pow 2 53) (different : m ≠ n) :
    n ≤ Nat.pow 2 53 * ((m : Int) - n).natAbs := by
  simp only [Nat.pow_eq] at *
  omega

/-- A count that keeps its bits lies on the grid of every lesser count. -/
theorem dvd_of_le_of_kept {bound quanta : Nat} (kept : Kept quanta) (above : bound ≤ quanta) :
    Nat.pow 2 (bound.log2 - 52) ∣ quanta := by
  have exponents : bound.log2 ≤ quanta.log2 := by
    by_cases none : bound = 0
    · rw [none]
      exact Nat.zero_le _
    · have nonzero : quanta ≠ 0 := by omega
      exact (Nat.le_log2 nonzero).mpr (Nat.le_trans (Nat.log2_self_le none) above)
  exact Nat.dvd_trans (Nat.pow_dvd_pow 2 (Nat.sub_le_sub_right exponents 52)) kept

theorem separated_of_kept {m n : Nat} (keptLeft : Kept m) (keptRight : Kept n)
    (different : m ≠ n) :
    n ≤ Nat.pow 2 53 * ((m : Int) - n).natAbs := by
  have bits : min m n < Nat.pow 2 53 * Nat.pow 2 ((min m n).log2 - 52) := by
    simp only [Nat.pow_eq]
    rw [← Nat.pow_add]
    exact Nat.lt_of_lt_of_le Nat.lt_log2_self (Nat.pow_le_pow_right (by decide) (by omega))
  rcases dvd_of_le_of_kept keptLeft (Nat.min_le_left m n) with ⟨first, leftSteps⟩
  rcases dvd_of_le_of_kept keptRight (Nat.min_le_right m n) with ⟨second, rightSteps⟩
  generalize Nat.pow 2 ((min m n).log2 - 52) = spacing at *
  subst leftSteps rightSteps
  have few : min first second < Nat.pow 2 53 := by
    rw [Nat.mul_min_mul_left, Nat.mul_comm] at bits
    exact Nat.lt_of_mul_lt_mul_right bits
  have apart := separated_of_lt few (fun same => different (congrArg (spacing * ·) same))
  have scaled : (((spacing * first : Nat) : Int) - (spacing * second : Nat)).natAbs =
      spacing * ((first : Int) - second).natAbs := by
    rw [Int.natCast_mul, Int.natCast_mul, ← Int.mul_sub, Int.natAbs_mul, Int.natAbs_natCast]
  rw [scaled, Nat.mul_left_comm]
  exact Nat.mul_le_mul_left spacing apart

/-- Numbers of either sign are separated, those of opposite signs by more than either of them. -/
theorem separated {p q : Int} (keptLeft : Kept p.natAbs) (keptRight : Kept q.natAbs)
    (different : p ≠ q) :
    q.natAbs ≤ Nat.pow 2 53 * (p - q).natAbs := by
  by_cases opposite : q.natAbs ≤ (p - q).natAbs
  · exact Nat.le_trans opposite (Nat.le_mul_of_pos_left _ (Nat.two_pow_pos 53))
  · have sameSide : (p - q).natAbs = ((p.natAbs : Int) - q.natAbs).natAbs := by omega
    rw [sameSide]
    exact separated_of_kept keptLeft keptRight (by omega)

/-- A rounded fraction is off by half a quantum at most, or by less than one part in `2 ^ 53`.  The
start of the grid is on the grid too, and so an error is added to it on the way to the fraction. -/
theorem rounded_error_cases (numerator : Int) {denominator : Nat} (positive : 0 < denominator) :
    2 * (rounded numerator denominator * denominator - numerator).natAbs ≤ denominator ∨
      (Nat.pow 2 53 + 1) * (rounded numerator denominator * denominator - numerator).natAbs ≤
        numerator.natAbs := by
  rw [natAbs_rounded_sub]
  generalize numerator.natAbs = magnitude
  have half := roundQuanta_grid_error magnitude positive
  by_cases coarse : 0 < roundingShift (magnitude / denominator)
  · right
    have started := gridStart_le coarse
    have nearest := roundQuanta_nearest magnitude positive
      (kept_two_pow (52 + roundingShift (magnitude / denominator)))
    rw [gridStart_eq] at started nearest
    simp only [Nat.pow_eq] at *
    omega
  · left
    rwa [Nat.eq_zero_of_not_pos coarse, Nat.pow_eq, Nat.pow_zero, Nat.mul_one] at half

/-- A rounded product is no further from the exact one than the exact product of any other number
is. -/
theorem rounded_mul_error {p q : Int} (keptLeft : Kept p.natAbs) (keptRight : Kept q.natAbs)
    (different : p ≠ q) (size : Nat) :
    (rounded (q * size) 1 - q * size).natAbs ≤ (p - q).natAbs * size := by
  apply Nat.le_of_mul_le_mul_left _ (Nat.two_pow_pos 53)
  calc 2 ^ 53 * (rounded (q * size) 1 - q * size).natAbs ≤ (q * size).natAbs :=
      rounded_one_error (q * size)
    _ = q.natAbs * size := by rw [Int.natAbs_mul, Int.natAbs_natCast]
    _ ≤ Nat.pow 2 53 * (p - q).natAbs * size :=
        Nat.mul_le_mul_right _ (separated keptLeft keptRight different)
    _ = 2 ^ 53 * ((p - q).natAbs * size) := Nat.mul_assoc _ _ _

/-- Neither of two products is rounded beyond the exact value of the other. -/
theorem rounded_mul_between {p q : Int} (keptLeft : Kept p.natAbs) (keptRight : Kept q.natAbs)
    (less : p < q) (size : Nat) :
    rounded (p * size) 1 ≤ q * size ∧ p * size ≤ rounded (q * size) 1 := by
  have leftError := rounded_mul_error keptRight keptLeft (Int.ne_of_gt less) size
  have rightError := rounded_mul_error keptLeft keptRight (Int.ne_of_lt less) size
  have distance : q * size - p * size = (q - p).natAbs * size := by
    rw [← Int.sub_mul, Int.natAbs_of_nonneg (Int.sub_nonneg_of_le (Int.le_of_lt less))]
  have mirrored : (p - q).natAbs = (q - p).natAbs := by omega
  rw [mirrored] at rightError
  rw [← Int.natCast_mul] at distance
  constructor <;> omega

end Binary64
end Chronometry
