import Chronometry.Proofs.Duration.Counts
import Chronometry.Proofs.Duration.Total

/-!
# Reading a duration back

The length of a duration is a count of nanoseconds.  In a unit of time it is read back as the number
of milliseconds that a text of so many nanoseconds denotes, and that number is converted like any
other magnitude.  Four roundings lie on the way back, and three on the way there.  Together they are
too little to move a count of less than `2 ^ 49` by half a one; what remains of them can be seen in
the last digits only, and in nothing at all where everything is exact.
-/

namespace Chronometry
namespace Duration

open Binary64 DurationText Quantity

variable {d : Duration} {unit : Measure} {nanoseconds count size : Nat} {position : Int}

/-! ## The way back -/

/-- The position in a unit at which a length of nanoseconds is read back. -/
def backPosition (nanoseconds size : Nat) : Int :=
  if size = 1000000 then countedPosition nanoseconds
    else rounded (inNanoseconds (countedPosition nanoseconds)) size

theorem backPosition_eq (nanoseconds size : Nat) :
    backPosition nanoseconds size = positionIn (totalPosition nanoseconds) 1000000 size := by
  have total : totalPosition nanoseconds = countedPosition nanoseconds := by
    rw [totalPosition, countedPosition, wholePosition, Int.natCast_mul]
  have million : ((1000000 : Nat) : Int) = 1000000 := rfl
  rw [backPosition, positionIn, total, convertedPosition, inNanoseconds, million]
  simp only [eq_comm]

theorem convert_standsAt (found : balanced? .millisecond (nanoseconds : Nat) = some d)
    (sized : unit.nanoseconds? = some size) :
    ∃ back, Registry.standard.convert (.duration d) unit = .ok (.quantity back) ∧ back.unit = unit ∧
      back.value.StandsAt (backPosition nanoseconds size) := by
  rcases convert_duration_standsAt (not_hasCalendarFields_of_balanced? found) sized with
    ⟨back, converted, inUnit, _, standing⟩
  rw [length_of_balanced? found, ← backPosition_eq] at standing
  exact ⟨back, converted, inUnit, standing⟩

/-! ## There and back -/

theorem backPosition_close (nanoseconds : Nat) (positive : 0 < size)
    (moderate : size ≤ Nat.pow 2 64) :
    Close 35 (backPosition nanoseconds size * size) (nanoseconds * quantaPerOne : Nat) ∧
      (size = 1000000 ->
        Close 17 (backPosition nanoseconds size * size) (nanoseconds * quantaPerOne : Nat)) := by
  have milliseconds := totalPosition_close nanoseconds
  rw [backPosition_eq, Int.natCast_mul]
  constructor
  · exact positionIn_close milliseconds (by decide) positive moderate
  · rintro rfl
    rw [positionIn, if_pos rfl]
    exact milliseconds

/-- Less than half a unit away from a whole number of units, that number is the nearest. -/
theorem nearestWhole_of_units (size : Nat)
    (near : 2 * (position * size - (count * size * quantaPerOne : Nat)).natAbs <
      size * quantaPerOne) :
    nearestWhole position = count := by
  apply nearestWhole_eq
  apply Nat.lt_of_mul_lt_mul_right (a := size)
  rw [Nat.mul_right_comm, Int.natCast_mul, Int.natCast_mul] at near
  rw [Nat.mul_assoc, ← Int.natAbs_natCast size, ← Int.natAbs_mul, Int.sub_mul, Int.natAbs_natCast,
    Nat.mul_comm quantaPerOne]
  exact near

/-- Few enough nanoseconds are counted exactly, and what was counted is read back. -/
theorem nearestWhole_backPosition_of_nanoseconds (few : count < Nat.pow 2 49)
    (there : Close 26 position (count * 1 * quantaPerOne : Nat))
    (nearest : nearestWhole position = nanoseconds) :
    nearestWhole (backPosition nanoseconds 1) = count := by
  have one := quantaPerOne_pos
  have below : count * quantaPerOne ≤ Nat.pow 2 49 * quantaPerOne :=
    Nat.mul_le_mul_right _ (Nat.le_of_lt few)
  rw [Nat.mul_one] at there
  have same : nearestWhole position = count := by
    unfold Close at there
    rw [Int.natAbs_natCast] at there
    apply nearestWhole_eq
    rw [← Int.natCast_mul]
    simp only [Nat.pow_eq] at *
    omega
  have exactly : nanoseconds = count := Int.ofNat_inj.mp (nearest.symm.trans same)
  subst exactly
  rcases backPosition_close nanoseconds Nat.one_pos (show 1 ≤ Nat.pow 2 64 by decide)
    with ⟨back, _⟩
  unfold Close at back
  apply nearestWhole_of_units 1
  rw [Nat.mul_one, Nat.one_mul]
  simp only [Nat.pow_eq] at *
  omega

/-- Half a nanosecond is at most the two thousandth part of a coarser unit. -/
theorem nearestWhole_backPosition_of_coarse (coarse : 1000 ≤ size)
    (moderate : size ≤ Nat.pow 2 64)
    (few : count < Nat.pow 2 49 ∨ size = 1000000 ∧ count < 633318697598976)
    (there : Close 26 position (count * size * quantaPerOne : Nat))
    (nearest : nearestWhole position = nanoseconds) :
    nearestWhole (backPosition nanoseconds size) = count := by
  have one := quantaPerOne_pos
  have error := nearestWhole_error position
  rw [nearest, ← Int.natCast_mul] at error
  have ones : 1000 * quantaPerOne ≤ size * quantaPerOne := Nat.mul_le_mul_right _ coarse
  rcases backPosition_close nanoseconds (show 0 < size by omega) moderate
    with ⟨back, backMilliseconds⟩
  apply nearestWhole_of_units size
  rw [Nat.mul_assoc] at there ⊢
  rcases few with few | ⟨milliseconds, few⟩
  · have below := Nat.mul_le_mul_right (size * quantaPerOne) (Nat.le_of_lt few)
    unfold Close at there back
    simp only [Nat.pow_eq] at *
    omega
  · have below := Nat.mul_le_mul_right (size * quantaPerOne) (Nat.le_of_lt few)
    have back := backMilliseconds milliseconds
    unfold Close at there back
    simp only [Nat.pow_eq] at *
    omega

/-- Seven roundings do not move a count by half a one. -/
theorem nearestWhole_backPosition (sized : size = 1 ∨ 1000 ≤ size)
    (moderate : size ≤ Nat.pow 2 64)
    (few : count < Nat.pow 2 49 ∨ size = 1000000 ∧ count < 633318697598976)
    (there : Close 26 position (count * size * quantaPerOne : Nat))
    (nearest : nearestWhole position = nanoseconds) :
    nearestWhole (backPosition nanoseconds size) = count := by
  rcases sized with rfl | coarse
  · have fewOnes := few.resolve_right fun impossible => absurd impossible.1 (by decide)
    exact nearestWhole_backPosition_of_nanoseconds fewOnes there nearest
  · exact nearestWhole_backPosition_of_coarse coarse moderate few there nearest

/-- Where a count of whole milliseconds is exact in nanoseconds, it is read back as it was. -/
theorem backPosition_of_kept (positive : 0 < size) (whole : 1000000 ∣ size)
    (small : count * size ≤ Nat.pow 2 53 * 1000000) (kept : Kept (count * size * quantaPerOne)) :
    backPosition (count * size) size = (count * quantaPerOne : Nat) := by
  rcases whole with ⟨factor, rfl⟩
  have split : count * (1000000 * factor) = count * factor * 1000000 := by
    rw [Nat.mul_comm 1000000, Nat.mul_assoc]
  have factorPositive : 0 < factor := Nat.pos_of_mul_pos_left positive
  rw [split] at small kept
  have few : count * factor ≤ Nat.pow 2 53 := Nat.le_of_mul_le_mul_right small (by decide)
  have keptCount : Kept ((count * quantaPerOne : Nat) : Int).natAbs :=
    kept_of_le (Nat.le_trans (Nat.le_mul_of_pos_right _ factorPositive) few)
  unfold backPosition
  split
  next same =>
    have one : factor = 1 := by omega
    subst one
    rw [Nat.mul_one] at kept few ⊢
    exact countedPosition_of_kept few kept
  next =>
    rw [split, inNanoseconds_countedPosition_of_kept few kept, ← split, Nat.mul_right_comm,
      Int.natCast_mul]
    exact rounded_mul keptCount positive

end Duration
end Chronometry
