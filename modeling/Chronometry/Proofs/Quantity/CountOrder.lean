import Chronometry.Proofs.Binary64.Separation
import Chronometry.Proofs.Quantity.CountedMagnitude

/-!
# Counts in the order of magnitudes

A whole magnitude and its neighbour with a fraction are counted in different ways, the one exactly
and the other by a rounded product.  The rounded product may lie on either side of the exact one,
and still the two counts are in order: numbers are further apart than a product with either of them
is rounded, so that neither product passes the other.  Cutting off the fraction of a nanosecond
keeps that order, toward zero from both sides.
-/

namespace Chronometry
namespace Quantity

open Binary64

variable {value larger : Binary64} {unit : Measure} {p q : Int}

/-- Both ways of counting keep the order, and so does a step from one to the other. -/
theorem countedPosition_mono (keptLeft : Kept p.natAbs) (keptRight : Kept q.natAbs)
    (ordered : p ≤ q) (size : Nat) :
    countedPosition p size ≤ countedPosition q size := by
  rcases Int.lt_or_eq_of_le ordered with less | rfl
  · rcases rounded_mul_between keptLeft keptRight less size with ⟨leftBelow, rightAbove⟩
    have products : p * size ≤ q * size :=
      Int.mul_le_mul_of_nonneg_right ordered (Int.natCast_nonneg size)
    unfold countedPosition
    by_cases leftWhole : (quantaPerOne : Int) ∣ p <;> by_cases rightWhole : (quantaPerOne : Int) ∣ q
    · rw [if_pos leftWhole, if_pos rightWhole]
      exact products
    · rw [if_pos leftWhole, if_neg rightWhole]
      exact rightAbove
    · rw [if_neg leftWhole, if_pos rightWhole]
      exact leftBelow
    · rw [if_neg leftWhole, if_neg rightWhole]
      exact rounded_mono Nat.one_pos products
  · exact Int.le_refl _

theorem countedNanoseconds_mono (keptLeft : Kept p.natAbs) (keptRight : Kept q.natAbs)
    (ordered : p ≤ q) (size : Nat) :
    countedNanoseconds p size ≤ countedNanoseconds q size :=
  Int.tdiv_le_tdiv (Int.natCast_pos.mpr quantaPerOne_pos)
    (countedPosition_mono keptLeft keptRight ordered size)

/-- What is counted is finite, and it is counted at its position. -/
theorem exists_position_of_counted {count : Int}
    (counted : (plain value unit).toNanoseconds = .ok count) :
    ∃ size p,
      unit.nanoseconds? = some size ∧ value.StandsAt p ∧ count = countedNanoseconds p size := by
  cases found : unit.nanoseconds? with
  | none =>
      rw [toNanoseconds_of_not_time found] at counted
      contradiction
  | some size =>
      by_cases finite : value.isFinite = true
      · rcases exists_standsAt finite with ⟨p, standing⟩
        rw [toNanoseconds_of_standsAt found standing] at counted
        split at counted
        · exact ⟨size, p, rfl, standing, (Except.ok.inj counted).symm⟩
        · contradiction
      · rw [toNanoseconds_of_not_finite found (Bool.eq_false_iff.mpr finite)] at counted
        contradiction

theorem toNanoseconds_mono (ordered : larger.atLeast value = true) {m n : Int}
    (counted : (plain value unit).toNanoseconds = .ok m)
    (countedLarger : (plain larger unit).toNanoseconds = .ok n) :
    m ≤ n := by
  rcases exists_position_of_counted counted with ⟨size, p, found, standing, rfl⟩
  rcases exists_position_of_counted countedLarger
    with ⟨otherSize, q, otherFound, standingLarger, rfl⟩
  rw [Option.some.inj (otherFound.symm.trans found)]
  exact countedNanoseconds_mono standing.kept standingLarger.kept
    ((atLeast_iff_of_standsAt standingLarger standing).mp ordered) size

/-- A greater magnitude never has a lesser count, whichever way each of the two is counted, and
never is an earlier instant. -/
theorem greater_magnitude_is_not_earlier (unit : Measure) (value larger : Binary64)
    (ordered : larger.atLeast value = true) :
    (∀ m n, (plain value unit).toNanoseconds = .ok m ->
      (plain larger unit).toNanoseconds = .ok n -> m ≤ n) ∧
    (∀ dates reference (i j : Instant),
      (Source.value (.quantity (plain value unit))).toInstant dates reference = .ok i ->
      (Source.value (.quantity (plain larger unit))).toInstant dates reference = .ok j ->
      i.nanoseconds ≤ j.nanoseconds) := by
  constructor
  · intro m n counted countedLarger
    exact toNanoseconds_mono ordered counted countedLarger
  · intro dates reference i j read readLarger
    rw [toInstant_eq_ok_iff] at read readLarger
    exact toNanoseconds_mono ordered read readLarger

/-- The last odd number of hours before the last instant, and the next number after it. -/
def lastOddHours : Binary64 := ofInt 70389501
def afterLastOddHours : Binary64 := Binary64.round false (4723759449636865 * Nat.pow 2 1048) 1

/-- The exact count of these hours is not a number of the format, and the product in binary64 would
come out below it.  The next number has a fraction, and its product in binary64 is above the exact
count. -/
theorem fraction_of_hour_is_not_earlier :
    afterLastOddHours.atLeast lastOddHours = true ∧
      (plain lastOddHours .hour).toNanoseconds = .ok 253402203600000000000 ∧
      (plain afterLastOddHours .hour).toNanoseconds = .ok 253402203600000057344 ∧
      (lastOddHours * ofInt 3600000000000).truncated? = some 253402203599999991808 ∧
      (253402203600000000000 : Int) ≤ 253402203600000057344 := by
  have ordered : afterLastOddHours.atLeast lastOddHours = true := by decide +kernel
  have magnitude : nanosecondsOfMagnitude lastOddHours 3600000000000 =
      some 253402203600000000000 := by decide +kernel
  have magnitudeLarger : nanosecondsOfMagnitude afterLastOddHours 3600000000000 =
      some 253402203600000057344 := by
    decide +kernel
  have counted : (plain lastOddHours .hour).toNanoseconds = .ok 253402203600000000000 :=
    toNanoseconds_of_magnitude rfl (by decide +kernel) magnitude
  have countedLarger : (plain afterLastOddHours .hour).toNanoseconds = .ok 253402203600000057344 :=
    toNanoseconds_of_magnitude rfl (by decide +kernel) magnitudeLarger
  have order := greater_magnitude_is_not_earlier .hour lastOddHours afterLastOddHours ordered
  exact ⟨ordered, counted, countedLarger, by decide +kernel, order.1 _ _ counted countedLarger⟩

end Quantity
end Chronometry
