import Chronometry.Proofs.Duration.Total
import Chronometry.Proofs.Order.Comparison
import Chronometry.Proofs.Quantity.ConversionChain
import Chronometry.Proofs.Quantity.Magnitude
import Chronometry.Proofs.Quantity.ShortCounts
import Chronometry.Proofs.Session.Standing

/-!
# Durations in units of time

A duration is converted to a unit of time through its total of milliseconds, which is a number, and
the quantity that results has no exact count.  Read as a duration again it is therefore the duration
of the nearest whole number of nanoseconds at the end of six roundings, not of the length that it
was converted from.  For lengths of less than `2 ^ 31` milliseconds that is the same.
-/

namespace Chronometry

open Binary64 Quantity

namespace Duration

variable {d : Duration} {unit : Measure} {count size : Nat}

theorem approximates_of_projection {q : Quantity} (sized : unit.nanoseconds? = some size)
    (inUnit : q.unit = unit)
    (standing : q.value.StandsAt (positionIn (totalPosition d.length) 1000000 size)) :
    Approximates q d.length size (positionIn (totalPosition d.length) 1000000 size) where
  sized := inUnit ▸ sized
  standing := standing
  close := by
    have divisor := sized_of_nanoseconds? sized
    have converted :=
      positionIn_close (totalPosition_close d.length) (by decide) divisor.positive divisor.within
    exact converted
  moderate := d.natAbs_length_le

/-! ## Short lengths -/

/-- At `2 ^ 50` nanoseconds the product with a million undoes the quotient. -/
theorem million_undone_at_quarters :
    inNanoseconds (totalPosition (Nat.pow 2 50 : Nat)) = (Nat.pow 2 50 : Nat) * quantaPerOne := by
  decide +kernel

/-- A short total is off by less than an eighth of a nanosecond. -/
theorem totalPosition_near_of_short (short : count < 2147483648000000) :
    8 * (totalPosition count * 1000000 - count * quantaPerOne).natAbs < quantaPerOne := by
  have positive := quantaPerOne_pos
  have exact : Exact count := exact_of_le (by
    simp only [Nat.pow_eq]
    omega)
  have error := million_error_of_short short
    (show (count * quantaPerOne - (count : Int) * quantaPerOne).natAbs < _ by omega)
  rw [totalPosition, exact.rounded_eq]
  simp only [Nat.pow_eq] at error
  omega

/-- In nanoseconds a total is at most an eighth of a one away from the length, and above `2 ^ 50` it
is the length. -/
theorem inNanoseconds_totalPosition_of_short (short : count < 2147483648000000) :
    inNanoseconds (totalPosition count) = count * quantaPerOne ∨
      8 * (inNanoseconds (totalPosition count) - count * quantaPerOne).natAbs ≤ quantaPerOne ∧
        count < Nat.pow 2 50 := by
  have near := totalPosition_near_of_short short
  rcases Nat.lt_trichotomy count (Nat.pow 2 50) with less | rfl | more
  · right
    have few : (Nat.pow 2 3 * (count : Int)).natAbs < Nat.pow 2 53 := by
      simp only [Nat.pow_eq] at *
      omega
    exact ⟨rounded_within_part 3 (by decide) few (Nat.le_of_lt near), less⟩
  · left
    exact million_undone_at_quarters
  · left
    unfold inNanoseconds
    have error := rounded_error_of_short short
      (show (totalPosition count * 1000000 - _).natAbs ≤ quantaPerOne by omega)
    rcases exists_quarters more
      (show (totalPosition count * 1000000 - _).natAbs ≤ quantaPerOne by omega) with
      ⟨steps, multiple⟩
    rcases Nat.eq_zero_or_pos steps with rfl | some
    · omega
    · have one := Nat.le_mul_of_pos_left quantaPerOne some
      generalize totalPosition count * 1000000 = product at *
      omega

/-- The magnitude of a short length is within a quarter of a nanosecond of it. -/
theorem recoverable_projection (short : count < 2147483648000000) (positive : 0 < size)
    (moderate : size ≤ Nat.pow 2 64) :
    Recoverable (positionIn (totalPosition count) 1000000 size * size) count := by
  have near := totalPosition_near_of_short short
  left
  unfold positionIn
  split
  next same =>
    rw [← same]
    change 4 * (totalPosition count * 1000000 - _).natAbs ≤ _
    omega
  next =>
    have close := (totalPosition_close count).rounding (by decide)
    have error :=
      close_eight_iff.mp (quotient_close (close.substantial (by decide)) positive moderate)
    have scaled := scaled_of_short short
    change 4 * (rounded (inNanoseconds (totalPosition count)) size * size - _).natAbs ≤ _
    change Nat.pow 2 53 * (rounded (inNanoseconds (totalPosition count)) size * size - inNanoseconds
      (totalPosition count)).natAbs ≤ (inNanoseconds (totalPosition count)).natAbs at error
    generalize rounded (inNanoseconds (totalPosition count)) size * size = magnitude at *
    rcases inNanoseconds_totalPosition_of_short short with exact | ⟨eighth, less⟩
    · rw [exact] at error
      simp only [Nat.pow_eq] at error
      omega
    · change count < 1125899906842624 at less
      have fewer := Nat.mul_le_mul_right quantaPerOne (Nat.succ_le_of_lt less)
      rw [Nat.succ_mul] at fewer
      rw [← Int.natCast_mul] at eighth scaled ⊢
      simp only [Nat.pow_eq] at error
      generalize inNanoseconds (totalPosition count) = nanoseconds at *
      omega

theorem nearestWhole_arrival_projection {length : Int} (short : length.natAbs < 2147483648000000)
    (positive : 0 < size) (moderate : size ≤ Nat.pow 2 64) :
    nearestWhole (arrival (positionIn (totalPosition length) 1000000 size) size) = length := by
  rcases Int.natAbs_eq length with right | left
  · rw [right]
    exact nearestWhole_arrival short (recoverable_projection short positive moderate)
  · rw [left, totalPosition_neg, positionIn_neg _ _ positive, arrival_neg, nearestWhole_neg,
      nearestWhole_arrival short (recoverable_projection short positive moderate)]

end Duration

namespace Engine

/-- A duration that is converted to a unit of time and read again.  It is the same duration if it is
shorter than `2 ^ 31` milliseconds, and otherwise it has a length that is a number and differs
little; only the limits can refuse it. -/
theorem projected_duration_is_read_near {engine : Engine} (standard : engine.registry = .standard)
    {d : Duration} (plain : ¬d.HasCalendarFields) (name : TimeName) :
    ∃ q, engine.convert (.duration d) name.text = .ok (.quantity q) ∧ q.unit = name.unit ∧
      q.exactNanoseconds = none ∧
      Duration.AnswersNear (engine.duration (.value (.quantity q))) d.length ∧
      (d.length.natAbs < 2147483648000000 ->
        ∃ e, engine.duration (.value (.quantity q)) = .ok e ∧ d.sameLength e = true) := by
  rcases name.unit.isTime_iff.mp name.isTime with ⟨size, sized⟩
  rcases Duration.convert_duration_standsAt plain sized
    with ⟨q, converted, inUnit, countless, standing⟩
  have divisor := sized_of_nanoseconds? sized
  have approximate := Duration.approximates_of_projection sized inUnit standing
  have near := approximate.answersNear engine.durations fun short =>
    Duration.nearestWhole_arrival_projection short divisor.positive divisor.within
  refine ⟨q, ?_, inUnit, countless, near, ?_⟩
  · rw [convert_of_spelled standard _ name.spells, converted]
  · intro short
    rcases near.answers (by omega) with ⟨e, read⟩
    have made := Duration.ofNanoseconds_eq_ok_iff.mp ((near.exact short).symm.trans read)
    refine ⟨e, read, ?_⟩
    rw [Duration.sameLength_iff plain (Duration.not_hasCalendarFields_of_balanced? made),
      Duration.length_of_balanced? made]

/-- A quarter of an hour, a microsecond and a nanosecond are read back from days. -/
theorem quarter_of_hour_is_read_back :
    ∃ q e,
      atNoon.convert (.duration ⟨⟨0, 0, 0, 0, 0, 15, 0, 0, 1, 1⟩, by decide, by decide⟩) "day" =
        .ok (.quantity q) ∧
      atNoon.duration (.value (.quantity q)) = .ok e ∧
      Duration.sameLength ⟨⟨0, 0, 0, 0, 0, 15, 0, 0, 1, 1⟩, by decide, by decide⟩ e = true := by
  have plain : ¬Duration.HasCalendarFields
      ⟨⟨0, 0, 0, 0, 0, 15, 0, 0, 1, 1⟩, by decide, by decide⟩ := by decide
  rcases projected_duration_is_read_near (show atNoon.registry = .standard from rfl) plain
    (.ofUnit .day rfl) with
    ⟨q, converted, _, _, _, exact⟩
  rcases exact (by decide) with ⟨e, read, same⟩
  exact ⟨q, e, converted, read, same⟩

/-- A little above `2 ^ 31` milliseconds a length is no longer read back from minutes; above
`2 ^ 53` nanoseconds the length itself need not be a number; and the greatest length of milliseconds
is rounded beyond the limit. -/
theorem long_durations_are_not_read_back :
    (∃ d q e, Duration.ofNanoseconds 2147483660921611 = .ok d ∧
      atNoon.convert (.duration d) "min" = .ok (.quantity q) ∧
      atNoon.duration (.value (.quantity q)) = .ok e ∧ d.sameLength e = false) ∧
    (∃ d q e, Duration.ofNanoseconds 9007199254740993 = .ok d ∧
      atNoon.convert (.duration d) "ns" = .ok (.quantity q) ∧
      atNoon.duration (.value (.quantity q)) = .ok e ∧ d.sameLength e = false) ∧
    ∃ d q, Duration.ofNanoseconds 631107417600000999999 = .ok d ∧
      atNoon.convert (.duration d) "ms" = .ok (.quantity q) ∧
      atNoon.duration (.value (.quantity q)) =
        .error (.outOfRange (.limits (.milliseconds 631107417600001))) := by
  refine ⟨⟨⟨⟨0, 0, 0, 0, 0, 0, 0, 2147483660, 921, 611⟩, by decide, by decide⟩, .plain
    (ofInt 2147483660921611 / 1000000 * Measure.millisecond.factor / Measure.minute.factor) .minute,
    ⟨⟨0, 0, 0, 0, 0, 0, 0, 2147483660, 921, 610⟩, by decide, by decide⟩, ?_⟩,
    ⟨⟨⟨0, 0, 0, 0, 0, 0, 0, 9007199254, 740, 993⟩, by decide, by decide⟩, .plain
    (ofInt 9007199254740993 / 1000000 * Measure.millisecond.factor / Measure.nanosecond.factor)
    .nanosecond, ⟨⟨0, 0, 0, 0, 0, 0, 0, 9007199254, 740, 992⟩, by decide, by decide⟩, ?_⟩,
    ⟨⟨0, 0, 0, 0, 0, 0, 0, 631107417600000, 999, 999⟩, by decide, by decide⟩,
    .plain (ofInt 631107417600000999999 / 1000000) .millisecond, ?_⟩
  all_goals decide +kernel

end Engine
end Chronometry
