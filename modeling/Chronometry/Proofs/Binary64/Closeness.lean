import Chronometry.Proofs.Binary64.Whole

/-!
# Close positions

A chain of operations rounds once at every step, and each rounding errs by one part in `2 ^ 53` at
most.  The errors of a chain nearly add up.  To say so without fractions, closeness is counted in
parts of `2 ^ 56`: a rounding takes eight of them, and one more pays for each link of the chain.
Only quotients of very small numbers are rounded worse, and whole numbers of ones are not small.
-/

namespace Chronometry
namespace Binary64

/-- Two positions differ by at most so many parts in `2 ^ 56` of the second one. -/
def Close (parts : Nat) (x y : Int) : Prop :=
  Nat.pow 2 56 * (x - y).natAbs ≤ parts * y.natAbs

variable {parts first second : Nat} {x y z : Int}

theorem Close.refl (x : Int) : Close 0 x x := by
  simp [Close]

theorem Close.mono (close : Close first x y) (fewer : first ≤ second) : Close second x y :=
  Nat.le_trans close (Nat.mul_le_mul_right _ fewer)

/-- The parts of two links add up, and the product of the two errors is less than one part. -/
theorem Close.trans (left : Close first x y) (right : Close second y z)
    (few : first * second ≤ Nat.pow 2 56) :
    Close (first + second + 1) x z := by
  have product : first * (y - z).natAbs ≤ z.natAbs := by
    apply Nat.le_of_mul_le_mul_left _ (Nat.two_pow_pos 56)
    calc 2 ^ 56 * (first * (y - z).natAbs) = first * (2 ^ 56 * (y - z).natAbs) :=
        Nat.mul_left_comm _ _ _
      _ ≤ first * (second * z.natAbs) := Nat.mul_le_mul_left first right
      _ = first * second * z.natAbs := (Nat.mul_assoc _ _ _).symm
      _ ≤ 2 ^ 56 * z.natAbs := Nat.mul_le_mul_right _ few
  have middle : first * y.natAbs ≤ first * (y - z).natAbs + first * z.natAbs := by
    rw [← Nat.mul_add]
    exact Nat.mul_le_mul_left first (by omega)
  unfold Close at left right ⊢
  rw [Nat.add_mul, Nat.add_mul, Nat.one_mul]
  simp only [Nat.pow_eq] at *
  omega

theorem Close.mul (close : Close parts x y) (factor : Int) :
    Close parts (x * factor) (y * factor) := by
  unfold Close at close ⊢
  rw [← Int.sub_mul, Int.natAbs_mul, Int.natAbs_mul, ← Nat.mul_assoc, ← Nat.mul_assoc]
  exact Nat.mul_le_mul_right factor.natAbs close

/-- A common factor does not count. -/
theorem Close.of_mul {factor : Int} (nonzero : factor ≠ 0)
    (close : Close parts (x * factor) (y * factor)) :
    Close parts x y := by
  unfold Close at close ⊢
  rw [← Int.sub_mul, Int.natAbs_mul, Int.natAbs_mul, ← Nat.mul_assoc,
    ← Nat.mul_assoc] at close
  exact Nat.le_of_mul_le_mul_right close (Int.natAbs_pos.mpr nonzero)

/-- What is close to a position is at most twice as far away from zero. -/
theorem Close.natAbs_le (close : Close parts x y) (few : parts ≤ Nat.pow 2 56) :
    x.natAbs ≤ 2 * y.natAbs := by
  have distance : (x - y).natAbs ≤ y.natAbs :=
    Nat.le_of_mul_le_mul_left (Nat.le_trans close (Nat.mul_le_mul_right _ few)) (Nat.two_pow_pos 56)
  omega

/-- And at least half as far. -/
theorem Close.le_natAbs (close : Close parts x y) (few : parts ≤ Nat.pow 2 55) :
    y.natAbs ≤ 2 * x.natAbs := by
  have distance : 2 * (x - y).natAbs ≤ y.natAbs := by
    apply Nat.le_of_mul_le_mul_left _ (Nat.two_pow_pos 55)
    have within := Nat.le_trans close (Nat.mul_le_mul_right _ few)
    rwa [Nat.mul_left_comm, ← Nat.mul_assoc]
  omega

theorem close_eight_iff : Close 8 x y ↔ Nat.pow 2 53 * (x - y).natAbs ≤ y.natAbs := by
  unfold Close
  simp only [Nat.pow_eq]
  omega

theorem rounded_close (position : Int) : Close 8 (rounded position 1) position :=
  close_eight_iff.mpr (rounded_one_error position)

/-- Rounding is one more link of a chain. -/
theorem Close.rounding (close : Close parts x y) (few : parts ≤ Nat.pow 2 53) :
    Close (parts + 9) (rounded x 1) y := by
  have linked := (rounded_close x).trans close (by simp only [Nat.pow_eq] at *; omega)
  exact linked.mono (by omega)

/-! ## Quotients -/

/-- Zero, or not much less than one. -/
def Substantial (position : Int) : Prop :=
  position = 0 ∨ quantaPerOne ≤ 2 * position.natAbs

theorem Close.substantial {whole : Int} (close : Close parts x (whole * quantaPerOne))
    (few : parts ≤ Nat.pow 2 55) : Substantial x := by
  unfold Close at close
  by_cases none : whole = 0
  · left
    rw [none, Int.zero_mul, Int.natAbs_zero, Nat.mul_zero, Int.sub_zero] at close
    simp only [Nat.pow_eq] at close
    omega
  · right
    have atLeastOne : quantaPerOne ≤ (whole * quantaPerOne).natAbs := by
      rw [Int.natAbs_mul, Int.natAbs_natCast]
      exact Nat.le_mul_of_pos_left _ (Int.natAbs_pos.mpr none)
    have half := Nat.le_trans close (Nat.mul_le_mul_right _ few)
    simp only [Nat.pow_eq] at half
    omega

/-- A quotient by a moderate size is rounded with the relative error of any other operation. -/
theorem quotient_close (substantial : Substantial x) {size : Nat} (positive : 0 < size)
    (moderate : size ≤ Nat.pow 2 64) : Close 8 (rounded x size * size) x := by
  rcases substantial with rfl | large
  · rw [rounded_zero positive, Int.zero_mul]
    exact (Close.refl 0).mono (Nat.zero_le 8)
  · rw [close_eight_iff]
    apply rounded_error positive
    have scale : 2 * (Nat.pow 2 52 * Nat.pow 2 64) ≤ quantaPerOne := by decide +kernel
    have sized := Nat.mul_le_mul_left (Nat.pow 2 52) moderate
    omega

/-- So is a quotient, on the way from a whole number. -/
theorem Close.quotient {whole : Int} (close : Close parts x (whole * quantaPerOne))
    (few : parts ≤ Nat.pow 2 53) {size : Nat} (positive : 0 < size)
    (moderate : size ≤ Nat.pow 2 64) :
    Close (parts + 9) (rounded x size * size) (whole * quantaPerOne) := by
  have substantial := close.substantial (by simp only [Nat.pow_eq] at *; omega)
  have linked := (quotient_close substantial positive moderate).trans close
    (by simp only [Nat.pow_eq] at *; omega)
  exact linked.mono (by omega)

end Binary64
end Chronometry
