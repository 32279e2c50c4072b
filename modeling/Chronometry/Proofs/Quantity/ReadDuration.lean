import Chronometry.Coercion
import Chronometry.Proofs.Duration.Nanoseconds
import Chronometry.Proofs.Quantity.Position

/-!
# Reading quantities as durations

A quantity becomes a duration through its magnitude: the magnitude is converted to milliseconds,
multiplied by a million and rounded to a whole number of nanoseconds.  An exact count beside the
magnitude is not consulted.  If the magnitude is close to a count, so is the length that is read,
and whether it is the count is a question about positions alone.
-/

namespace Chronometry

namespace Duration

open Binary64 Error

variable {outcome : Except Error Duration} {count length position : Int} {parts : Nat}

/-- What is answered in place of the duration of a count by a computation that rounds.  Counts of
less than `2 ^ 31` milliseconds come out as they are.  Counts within the limit of milliseconds are
answered, only the limits refuse any, and an answer is off by no more than one part in `2 ^ 50`,
which is nothing below half a nanosecond.  The length of an answer is always a number of the
format. -/
structure AnswersNear (outcome : Except Error Duration) (count : Int) : Prop where
  exact : count.natAbs < 2147483648000000 -> outcome = ofNanoseconds count
  answers : count.natAbs ≤ 631107417600000000000 -> ∃ d, outcome = .ok d
  refuses : ∀ error, outcome = .error error ->
    ∃ milliseconds, error = .outOfRange (.limits (.milliseconds milliseconds))
  near : ∀ d,
    outcome = .ok d -> Nat.pow 2 50 * (d.length - count).natAbs ≤ count.natAbs + Nat.pow 2 49
  representable : ∀ d, outcome = .ok d -> Exact d.length

/-- Counts that are not very large can leave the limits of durations, but not the word of 64
bits. -/
theorem ofNanoseconds_eq_withinLimits (moderate : length.natAbs ≤ Nat.pow 2 80) :
    ofNanoseconds length =
      withinLimits (.milliseconds (length.tdiv 1000000)) (balanced? .millisecond length) := by
  have milliseconds := Int.natAbs_tdiv length 1000000
  change _ = length.natAbs / 1000000 at milliseconds
  change length.natAbs ≤ 1208925819614629174706176 at moderate
  have inside : -0x8000000000000000 ≤ length.tdiv 1000000 ∧
      length.tdiv 1000000 < 0x8000000000000000 := by omega
  simp only [ofNanoseconds, if_pos inside]

theorem AnswersNear.of_close (answered : outcome = ofNanoseconds (nearestWhole position))
    (kept : Kept position.natAbs) (close : Close 64 position (count * quantaPerOne))
    (moderate : count.natAbs ≤ Nat.pow 2 72)
    (short : count.natAbs < 2147483648000000 -> nearestWhole position = count) :
    AnswersNear outcome count := by
  have near := nearestWhole_near close
  have length {d : Duration} (made : outcome = .ok d) : d.length = nearestWhole position :=
    length_of_balanced? (ofNanoseconds_eq_ok_iff.mp (answered ▸ made))
  refine ⟨?_, ?_, ?_, ?_, ?_⟩
  · intro few
    rw [answered, short few]
  · -- What the roundings add at the limit is less than the millisecond that the division toward
    -- zero ignores.
    intro within
    have limited : ((nearestWhole position).tdiv 1000000).natAbs ≤ 631107417600000 := by
      rw [Int.natAbs_tdiv]
      change _ / 1000000 ≤ _
      simp only [Nat.pow_eq] at near
      omega
    rcases (exists_balanced?_iff (show Grain.millisecond.isCalendar = false from rfl) _).mpr limited
      with ⟨d, found⟩
    exact ⟨d, answered.trans (ofNanoseconds_eq_ok_iff.mpr found)⟩
  · intro error refused
    have small : (nearestWhole position).natAbs ≤ Nat.pow 2 80 := by
      simp only [Nat.pow_eq] at *
      omega
    rw [answered, ofNanoseconds_eq_withinLimits small] at refused
    exact ⟨_, eq_of_withinLimits_eq_error refused⟩
  · intro d made
    rwa [length made]
  · intro d made
    rw [length made]
    exact exact_nearestWhole kept

end Duration

namespace Quantity

open Binary64

variable {q : Quantity} {count position : Int} {size : Nat}

/-- The position in nanoseconds at which a magnitude arrives. -/
def arrival (position : Int) (size : Nat) : Int :=
  inNanoseconds (positionIn position size 1000000)

theorem arrival_neg (position : Int) (size : Nat) :
    arrival (-position) size = -arrival position size := by
  rw [arrival, positionIn_neg position size (by decide), inNanoseconds_neg, arrival]

/-- Three more links, and the whole way from a magnitude to nanoseconds is rounded. -/
theorem arrival_close {parts : Nat} (close : Close parts (position * size) (count * quantaPerOne))
    (few : parts ≤ Nat.pow 2 52) :
    Close (parts + 27) (arrival position size) (count * quantaPerOne) := by
  have milliseconds := positionIn_close close few (show 0 < 1000000 by decide) (by decide)
  exact milliseconds.rounding (by simp only [Nat.pow_eq] at *; omega)

/-- A quantity of time with a finite magnitude that is close to a count of nanoseconds. -/
structure Approximates (q : Quantity) (count : Int) (size : Nat) (position : Int) : Prop where
  sized : q.unit.nanoseconds? = some size
  standing : q.value.StandsAt position
  close : Close 35 (position * size) (count * quantaPerOne)
  moderate : count.natAbs ≤ Nat.pow 2 72

theorem Approximates.toDuration_eq (approximate : Approximates q count size position)
    (durations : DurationReader) :
    (Source.value (.quantity q)).toDuration durations =
      Duration.ofNanoseconds (nearestWhole (arrival position size)) := by
  have counted : (count * quantaPerOne).natAbs ≤ Nat.pow 2 72 * quantaPerOne := by
    rw [Int.natAbs_mul, Int.natAbs_natCast]
    exact Nat.mul_le_mul_right _ approximate.moderate
  have magnitude := approximate.close.natAbs_le (by decide)
  have inMilliseconds := (positionIn_close approximate.close (by decide)
    (show 0 < 1000000 by decide) (by decide)).natAbs_le (by decide)
  rw [Int.natAbs_mul _ ((1000000 : Nat) : Int)] at inMilliseconds
  simp only [Nat.pow_eq, Int.natAbs_natCast] at *
  have sized : Measure.millisecond.nanoseconds? = some 1000000 := rfl
  have found := magnitudeIn_standsAt approximate.standing approximate.sized sized (by
    simp only [Nat.pow_eq]
    omega)
  rcases found with ⟨milliseconds, converted, standing⟩
  change (do Duration.ofMilliseconds (← q.magnitudeIn .millisecond)) = _
  rw [converted]
  exact Duration.ofMilliseconds_of_standsAt standing (by
    simp only [Nat.pow_eq]
    omega)

/-- What is read from the magnitude answers for the count, once the short counts are known to come
out exactly. -/
theorem Approximates.answersNear (approximate : Approximates q count size position)
    (durations : DurationReader)
    (short : count.natAbs < 2147483648000000 -> nearestWhole (arrival position size) = count) :
    Duration.AnswersNear ((Source.value (.quantity q)).toDuration durations) count := by
  have close := (arrival_close approximate.close (by decide)).mono (show 35 + 27 ≤ 64 by decide)
  exact .of_close (approximate.toDuration_eq durations) (kept_inNanoseconds _) close
    approximate.moderate short

end Quantity
end Chronometry
