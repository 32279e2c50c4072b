import Chronometry.Instant.Conversion

/-!
# Whole milliseconds

The line of time is divided into milliseconds, each with its first nanosecond and without its last.
Every instant lies in exactly one of them, also before the epoch, because the division is rounded
down on both sides of it.  The limits of instants begin with the beginning of a millisecond, so that
the one in which an instant lies begins within the limits.
-/

namespace Chronometry
namespace Instant

/-- Rounding down finds the last whole millisecond that is not later. -/
theorem floorMillisecond_spec (i : Instant) :
    (1000000 : Int) ∣ i.floorMillisecond.nanoseconds ∧
      i.floorMillisecond.nanoseconds ≤ i.nanoseconds ∧
      ∀ count : Int, (1000000 : Int) ∣ count -> count ≤ i.nanoseconds ->
        count ≤ i.floorMillisecond.nanoseconds := by
  change (1000000 : Int) ∣ i.nanoseconds / 1000000 * 1000000 ∧
    i.nanoseconds / 1000000 * 1000000 ≤ i.nanoseconds ∧
    ∀ count : Int,
      (1000000 : Int) ∣ count -> count ≤ i.nanoseconds -> count ≤ i.nanoseconds / 1000000 * 1000000
  refine ⟨Int.dvd_mul_left _ _, by omega, ?_⟩
  rintro count ⟨milliseconds, rfl⟩ notLater
  omega

theorem floorMillisecond_eq_self_iff (i : Instant) :
    i.floorMillisecond = i ↔ (1000000 : Int) ∣ i.nanoseconds := by
  rw [eq_iff]
  change i.nanoseconds / 1000000 * 1000000 = i.nanoseconds ↔ _
  omega

/-- An instant lies in the millisecond that begins with another one. -/
structure InMillisecondOf (i first : Instant) : Prop where
  whole : (1000000 : Int) ∣ first.nanoseconds
  first_le : first.nanoseconds ≤ i.nanoseconds
  lt_next : i.nanoseconds < first.nanoseconds + 1000000

/-- There is one such millisecond, and rounding down finds it. -/
theorem inMillisecondOf_iff {i first : Instant} :
    i.InMillisecondOf first ↔ first = i.floorMillisecond := by
  rw [eq_iff]
  change _ ↔ first.nanoseconds = i.nanoseconds / 1000000 * 1000000
  constructor
  · rintro ⟨whole, notLater, next⟩
    omega
  · intro same
    exact ⟨by omega, by omega, by omega⟩

/-- The count of milliseconds at or before an instant is the count of an instant: no limit is left
on the way down. -/
theorem ofMilliseconds_div (i : Instant) :
    ofMilliseconds (i.nanoseconds / 1000000) = .ok i.floorMillisecond :=
  ofNanoseconds_eq_ok_iff.mpr rfl

theorem floorMillisecond_mono {i j : Instant} (ordered : i.nanoseconds ≤ j.nanoseconds) :
    i.floorMillisecond.nanoseconds ≤ j.floorMillisecond.nanoseconds :=
  Int.mul_le_mul_of_nonneg_right (Int.ediv_le_ediv (by decide) ordered) (by decide)

end Instant
end Chronometry
