import Chronometry.Proofs.Quantity.ReadDuration

/-!
# Short counts

Below `2 ^ 31` milliseconds a count of nanoseconds has less than 51 bits, and there are two bits
left for parts of a one.  A magnitude that is off by a quarter of a nanosecond is read back without
loss: the quarters are numbers, so that the first rounding of the reading does not leave them, and
the other two roundings together are too small to reach the half.  Above `2 ^ 50` the quarters are
all the numbers there are, and the first rounding repairs what is less than three eighths.

The limit is where the milliseconds themselves need another bit before the point.  From there on the
quotient by a million is rounded on a grid of twice the spacing, and a quarter and that error
together exceed a half.
-/

namespace Chronometry
namespace Quantity

open Binary64

variable {position magnitude : Int} {count size : Nat}

/-- Near enough to a count to be read as the count. -/
def Recoverable (position : Int) (count : Nat) : Prop :=
  4 * (position - count * quantaPerOne).natAbs ≤ quantaPerOne ∨
    Nat.pow 2 50 < count ∧ 8 * (position - count * quantaPerOne).natAbs < 3 * quantaPerOne

/-- The ones of a short count. -/
theorem scaled_of_short (short : count < 2147483648000000) :
    0 ≤ (count : Int) * quantaPerOne ∧
      (count : Int) * quantaPerOne + quantaPerOne ≤ 2147483648000000 * quantaPerOne := by
  have scaled := Nat.mul_le_mul_right quantaPerOne (Nat.succ_le_of_lt short)
  rw [Nat.succ_mul] at scaled
  rw [← Int.natCast_mul]
  omega

/-- Positions near a short count are rounded by an eighth of a one at most. -/
theorem rounded_error_of_short (short : count < 2147483648000000)
    (near : (position - count * quantaPerOne).natAbs ≤ quantaPerOne) :
    8 * (rounded position 1 - position).natAbs ≤ quantaPerOne := by
  have positive := quantaPerOne_pos
  have scaled := scaled_of_short short
  have error := rounded_error_below 50 Nat.one_pos (show position.natAbs < _ by
    simp only [Nat.pow_eq]
    omega)
  rw [Int.natCast_one, Int.mul_one] at error
  simp only [Nat.pow_eq] at error
  omega

/-- The quotient by a million is rounded more coarsely than the product was. -/
theorem million_error_of_short (short : count < 2147483648000000)
    (near : (position - count * quantaPerOne).natAbs < quantaPerOne) :
    Nat.pow 2 23 * (rounded position 1000000 * 1000000 - position).natAbs ≤
      1000000 * quantaPerOne := by
  have scaled := scaled_of_short short
  have error := rounded_error_below 30 (show 0 < 1000000 by decide) (show position.natAbs < _ by
    simp only [Nat.pow_eq]
    omega)
  change Nat.pow 2 53 * (rounded position 1000000 * 1000000 - position).natAbs ≤ _ at error
  simp only [Nat.pow_eq] at error ⊢
  omega

/-- Above `2 ^ 50` quarters of a one are all the numbers that there are. -/
theorem exists_quarters (large : Nat.pow 2 50 < count)
    (near : (position - count * quantaPerOne).natAbs ≤ quantaPerOne) :
    ∃ steps : Nat,
      4 * (rounded position 1 - count * quantaPerOne).natAbs = steps * quantaPerOne := by
  have above : ((Nat.pow 2 50 * quantaPerOne : Nat) : Int) ≤ rounded position 1 := by
    have kept : Kept ((Nat.pow 2 50 * quantaPerOne : Nat) : Int).natAbs := kept_of_le (by decide)
    have scaled := Nat.mul_le_mul_right quantaPerOne (Nat.succ_le_of_lt large)
    rw [Nat.succ_mul] at scaled
    apply le_rounded kept Nat.one_pos
    rw [← Int.natCast_mul] at near
    omega
  rcases exists_steps_of_kept 50 2 rfl (kept_rounded position 1) (by omega)
    with ⟨steps, multiple⟩
  change 4 * rounded position 1 = _ at multiple
  have product : 4 * (rounded position 1 - count * quantaPerOne) =
      (steps - 4 * count) * quantaPerOne := by
    rw [Int.mul_sub, multiple, Int.sub_mul, Int.mul_assoc]
  have size := congrArg Int.natAbs product
  rw [Int.natAbs_mul (steps - 4 * count), Int.natAbs_natCast] at size
  refine ⟨(steps - 4 * count).natAbs, ?_⟩
  omega

/-- The first rounding leaves a recoverable position a quarter of a one away from its count. -/
theorem rounded_of_recoverable (short : count < 2147483648000000)
    (near : Recoverable position count) :
    4 * (rounded position 1 - count * quantaPerOne).natAbs ≤ quantaPerOne := by
  rcases near with quarter | ⟨large, apart⟩
  · have few : (Nat.pow 2 2 * (count : Int)).natAbs < Nat.pow 2 53 := by
      simp only [Nat.pow_eq]
      omega
    exact rounded_within_part 2 (by decide) few quarter
  · -- Less than two quarters is one quarter at most.
    have error :=
      rounded_error_of_short short (show (position - _).natAbs ≤ quantaPerOne by omega)
    rcases exists_quarters large (show (position - _).natAbs ≤ quantaPerOne by omega)
      with ⟨steps, multiple⟩
    have few : steps < 2 := by
      apply Nat.lt_of_mul_lt_mul_right (a := quantaPerOne)
      omega
    have one := Nat.mul_le_mul_right quantaPerOne (Nat.le_of_lt_succ few)
    omega

/-- What is recoverable is recovered. -/
theorem nearestWhole_arrival (short : count < 2147483648000000)
    (near : Recoverable (magnitude * size) count) :
    nearestWhole (arrival magnitude size) = count := by
  have positive := quantaPerOne_pos
  apply nearestWhole_eq
  unfold arrival positionIn inNanoseconds
  split
  next same =>
    rw [same] at near
    change Recoverable (magnitude * 1000000) count at near
    have apart : 8 * (magnitude * 1000000 - count * quantaPerOne).natAbs < 3 * quantaPerOne := by
      rcases near with quarter | ⟨_, apart⟩
      · omega
      · exact apart
    have error :=
      rounded_error_of_short short (show (magnitude * 1000000 - _).natAbs ≤ quantaPerOne by omega)
    omega
  next =>
    have first := rounded_of_recoverable short near
    unfold convertedPosition
    generalize rounded (magnitude * size) 1 = nanoseconds at *
    have quotient :=
      million_error_of_short short (show (nanoseconds - _).natAbs < quantaPerOne by omega)
    generalize rounded nanoseconds 1000000 * 1000000 = product at *
    simp only [Nat.pow_eq] at quotient
    have last := rounded_error_of_short short (show (product - _).natAbs ≤ quantaPerOne by omega)
    omega

end Quantity
end Chronometry
