import Chronometry.Proofs.Duration.Total
import Chronometry.Proofs.Quantity.Magnitude
import Chronometry.Proofs.Quantity.ShortCounts
import Chronometry.Proofs.Session.Standing

/-!
# Exact counts read as durations

A quantity with an exact count is read as an instant through the count, and as a duration through
the magnitude.  The magnitude was rounded when it was computed from the count, once for the fraction
and once for the sum, and it is rounded three times more when it is read.  Only for counts of less
than `2 ^ 31` milliseconds do the two readings always denote the same number of nanoseconds.
-/

namespace Chronometry
namespace Quantity

open Binary64

variable {q : Quantity} {count : Int} {unit : Measure} {size : Nat}

theorem approximates_of_projected (sized : unit.nanoseconds? = some size)
    (moderate : count.natAbs ≤ Nat.pow 2 72) (projected : ofNanoseconds count unit = .ok q) :
    Approximates q count size (magnitudePosition count size) := by
  have divisor := sized_of_nanoseconds? sized
  rcases ofNanoseconds_eq_ok_iff.mp projected with ⟨_, found, rfl⟩
  obtain rfl := Option.some.inj (sized.symm.trans found)
  have error := magnitudePosition_error divisor count
  have close : Close 32 (magnitudePosition count size * size) (count * quantaPerOne) := by
    unfold Close
    simp only [Nat.pow_eq] at *
    omega
  exact ⟨sized, magnitude_standsAt divisor (Nat.le_trans moderate
    (Nat.pow_le_pow_right (by decide) (by decide))), close.mono (by decide), moderate⟩

/-! ## Short counts -/

/-- Without whole units the magnitude is the fraction, and only the quotient is rounded. -/
theorem magnitudePosition_of_no_whole (none : count.tdiv size = 0) :
    magnitudePosition count size = fractionPosition (count.tmod size) size := by
  rw [magnitudePosition, none, Int.zero_mul, rounded_zero Nat.one_pos, Int.zero_add]
  exact rounded_of_kept (kept_rounded _ _)

section Short

variable {count : Nat}

theorem tmod_le (count size : Nat) :
    0 ≤ (count : Int).tmod size ∧ (count : Int).tmod size ≤ count := by
  rw [← Int.ofNat_tmod]
  exact ⟨Int.natCast_nonneg _, Int.ofNat_le.mpr (Nat.mod_le _ _)⟩

theorem tdiv_le (count size : Nat) :
    0 ≤ (count : Int).tdiv size ∧ (count : Int).tdiv size ≤ count := by
  rw [← Int.ofNat_tdiv]
  exact ⟨Int.natCast_nonneg _, Int.ofNat_le.mpr (Nat.div_le_self _ _)⟩

/-- Where there are whole units, the remainder is at most half of the count. -/
theorem rest_le_whole (positive : 0 < size) (some : (count : Int).tdiv size ≠ 0) :
    (count : Int).tmod size * quantaPerOne ≤ (count : Int).tdiv size * quantaPerOne * size := by
  have whole := tdiv_le count size
  have below : (count : Int).tmod size < size := Int.tmod_lt_of_pos _ (Int.natCast_pos.mpr positive)
  have once : 1 * (size : Int) ≤ (count : Int).tdiv size * size :=
    Int.mul_le_mul_of_nonneg_right (by omega) (Int.natCast_nonneg _)
  rw [Int.mul_right_comm]
  exact Int.mul_le_mul_of_nonneg_right (by omega) (Int.natCast_nonneg _)

/-- The remainder of a short count is a number, and only the quotient is rounded. -/
theorem fractionPosition_error_of_short (sized : Sized size) (short : count < 2147483648000000) :
    Nat.pow 2 53 * (fractionPosition ((count : Int).tmod size) size * size -
      (count : Int).tmod size * quantaPerOne).natAbs ≤
        ((count : Int).tmod size * quantaPerOne).natAbs := by
  have rest := tmod_le count size
  have exact : Exact ((count : Int).tmod size) := exact_of_le (by
    simp only [Nat.pow_eq]
    omega)
  have error := fractionPosition_error sized ((count : Int).tmod size)
  rwa [exact.rounded_eq] at error

/-- The whole units of a short count are a number, and only the sum is rounded. -/
theorem magnitudePosition_error_of_short (size : Nat) (short : count < 2147483648000000) :
    Nat.pow 2 53 *
        (magnitudePosition count size * size - ((count : Int).tdiv size * quantaPerOne * size +
          fractionPosition ((count : Int).tmod size) size * size)).natAbs ≤
      ((count : Int).tdiv size * quantaPerOne * size +
        fractionPosition ((count : Int).tmod size) size * size).natAbs := by
  have whole := tdiv_le count size
  have exact : Exact ((count : Int).tdiv size) := exact_of_le (by
    simp only [Nat.pow_eq]
    omega)
  have error := error_mul size (rounded_one_error
    ((count : Int).tdiv size * quantaPerOne + fractionPosition ((count : Int).tmod size) size))
  rw [magnitudePosition, exact.rounded_eq]
  rwa [Int.add_mul] at error

/-- The magnitude of a short count is within three eighths of a nanosecond of it, and within a
quarter up to `2 ^ 50`. -/
theorem recoverable_magnitude (sized : Sized size) (short : count < 2147483648000000) :
    Recoverable (magnitudePosition count size * size) count := by
  have quanta := quantaPerOne_pos
  have scaled := scaled_of_short short
  have split := whole_add_rest count size
  have fractionError := fractionPosition_error_of_short sized short
  have restQuanta := Int.mul_nonneg (tmod_le count size).1 (Int.natCast_nonneg quantaPerOne)
  by_cases none : (count : Int).tdiv size = 0
  · left
    rw [magnitudePosition_of_no_whole none]
    rw [none, Int.zero_mul, Int.zero_mul, Int.zero_add] at split
    rw [← split] at fractionError
    generalize fractionPosition ((count : Int).tmod size) size * size = fraction at *
    simp only [Nat.pow_eq] at fractionError
    omega
  · have sumError := magnitudePosition_error_of_short size short
    have half := rest_le_whole sized.positive none
    generalize magnitudePosition count size * size = sum at *
    generalize fractionPosition ((count : Int).tmod size) size * size = fraction at *
    generalize (count : Int).tdiv size * quantaPerOne * size = whole at *
    generalize (count : Int).tmod size * quantaPerOne = rest at *
    simp only [Nat.pow_eq] at *
    by_cases large : 2 ^ 50 < count
    · right
      exact ⟨large, by omega⟩
    · left
      have fewer := Nat.mul_le_mul_right quantaPerOne (Nat.le_of_not_lt large)
      rw [← Int.natCast_mul] at *
      omega

end Short

theorem nearestWhole_arrival_magnitude (sized : Sized size)
    (short : count.natAbs < 2147483648000000) :
    nearestWhole (arrival (magnitudePosition count size) size) = count := by
  rcases Int.natAbs_eq count with right | left
  · rw [right]
    exact nearestWhole_arrival short (recoverable_magnitude sized short)
  · rw [left, magnitudePosition_neg sized, arrival_neg, nearestWhole_neg,
      nearestWhole_arrival short (recoverable_magnitude sized short)]

/-- A count that is a duration, projected into a unit of time.  As an instant the quantity is the
count.  As a duration it is the count if that is shorter than `2 ^ 31` milliseconds, and otherwise a
length that is a number and differs little; only the limits can refuse it. -/
theorem projected_count_is_read_near {d : Duration} (made : Duration.ofNanoseconds count = .ok d)
    (time : unit.isTime = true) :
    ∃ q, Quantity.ofNanoseconds count unit = .ok q ∧
      (∀ dates reference, (Source.value (.quantity q)).toInstant dates reference =
        Instant.ofNanoseconds count) ∧
      (∀ durations,
        Duration.AnswersNear ((Source.value (.quantity q)).toDuration durations) count) ∧
      (count.natAbs < 2147483648000000 ->
        ∀ durations, (Source.value (.quantity q)).toDuration durations = .ok d) := by
  rcases unit.isTime_iff.mp time with ⟨size, sized⟩
  rcases exists_ofNanoseconds count time with ⟨q, projected⟩
  have divisor := sized_of_nanoseconds? sized
  have moderate : count.natAbs ≤ Nat.pow 2 72 := by
    have length := d.natAbs_length_le
    rwa [Duration.length_of_balanced? (Duration.ofNanoseconds_eq_ok_iff.mp made)] at length
  have approximate := approximates_of_projected sized moderate projected
  have near : ∀ durations,
      Duration.AnswersNear ((Source.value (.quantity q)).toDuration durations) count :=
    fun durations =>
      approximate.answersNear durations fun short => nearestWhole_arrival_magnitude divisor short
  refine ⟨q, projected, ?_, near, ?_⟩
  · intro dates reference
    change (do Instant.ofNanoseconds (← q.toNanoseconds)) = _
    rw [toNanoseconds_of_projected projected]
    rfl
  · intro short durations
    rw [(near durations).exact short, made]

/-- The last nanosecond below `2 ^ 31` milliseconds is read from days. -/
theorem last_short_count_is_read :
    ∃ q, Quantity.ofNanoseconds 2147483647999999 .day = .ok q ∧
      (Source.value (.quantity q)).toDuration .everyday =
        .ok ⟨⟨0, 0, 0, 0, 0, 0, 0, 2147483647, 999, 999⟩, by decide, by decide⟩ := by
  have made : Duration.ofNanoseconds 2147483647999999 =
      .ok ⟨⟨0, 0, 0, 0, 0, 0, 0, 2147483647, 999, 999⟩, by decide, by decide⟩ := by
        decide +kernel
  rcases projected_count_is_read_near made (show Measure.day.isTime = true from rfl)
    with ⟨q, projected, _, _, exact⟩
  exact ⟨q, projected, exact (by decide) .everyday⟩

/-- Counts that are read exactly as instants are a nanosecond off as durations, a little above
`2 ^ 31` milliseconds in seconds and above `2 ^ 53` nanoseconds in nanoseconds.  The greatest count
that is a duration is refused as one. -/
theorem exact_count_is_not_read_as_duration :
    (∃ d q e, Duration.ofNanoseconds 2147483649935474 = .ok d ∧
      Quantity.ofNanoseconds 2147483649935474 .second = .ok q ∧
      (Source.value (.quantity q)).toDuration .everyday = .ok e ∧ d.sameLength e = false ∧
      (Source.value (.quantity q)).toInstant Engine.atNoon.dates Engine.atNoon.reference =
        .ok ⟨2147483649935474, by decide, by decide⟩) ∧
    (∃ d q e, Duration.ofNanoseconds 9007199254740993 = .ok d ∧
      Quantity.ofNanoseconds 9007199254740993 .nanosecond = .ok q ∧
      (Source.value (.quantity q)).toDuration .everyday = .ok e ∧ d.sameLength e = false ∧
      (Source.value (.quantity q)).toInstant Engine.atNoon.dates Engine.atNoon.reference =
        .ok ⟨9007199254740993, by decide, by decide⟩) ∧
    ∃ d q, Duration.ofNanoseconds 631107417600000999999 = .ok d ∧
      Quantity.ofNanoseconds 631107417600000999999 .nanosecond = .ok q ∧
      (Source.value (.quantity q)).toDuration .everyday =
        .error (.outOfRange (.limits (.milliseconds 631107417600001))) := by
  refine ⟨⟨⟨⟨0, 0, 0, 0, 0, 0, 0, 2147483649, 935, 474⟩, by decide, by decide⟩,
    ⟨magnitudeOfNanoseconds 2147483649935474 1000000000, .second, some 2147483649935474⟩,
    ⟨⟨0, 0, 0, 0, 0, 0, 0, 2147483649, 935, 475⟩, by decide, by decide⟩, ?_⟩,
    ⟨⟨⟨0, 0, 0, 0, 0, 0, 0, 9007199254, 740, 993⟩, by decide, by decide⟩,
    ⟨magnitudeOfNanoseconds 9007199254740993 1, .nanosecond, some 9007199254740993⟩,
    ⟨⟨0, 0, 0, 0, 0, 0, 0, 9007199254, 740, 992⟩, by decide, by decide⟩, ?_⟩,
    ⟨⟨0, 0, 0, 0, 0, 0, 0, 631107417600000, 999, 999⟩, by decide, by decide⟩,
    ⟨magnitudeOfNanoseconds 631107417600000999999 1, .nanosecond, some 631107417600000999999⟩, ?_⟩
  all_goals decide +kernel

end Quantity
end Chronometry
