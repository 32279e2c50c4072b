import Chronometry.Civil.DateTime

/-!
# Instants

An instant is a point of absolute time: a count of nanoseconds since 1970-01-01T00:00:00Z between
two fixed limits.  The limits leave a day at either end of the calendar, so that the local datetime
of an instant has a year from -9999 to 9999 in every zone.
-/

namespace Chronometry

/-- A point of absolute time, in nanoseconds since 1970-01-01T00:00:00Z. -/
structure Instant where
  nanoseconds : Int
  lower_le : -377705023201000000000 ≤ nanoseconds
  le_upper : nanoseconds ≤ 253402207200999999999
deriving DecidableEq

namespace Instant

theorem eq_iff {a b : Instant} : a = b ↔ a.nanoseconds = b.nanoseconds := by
  cases a
  cases b
  exact mk.injEq .. ▸ Iff.rfl

def epoch : Instant := ⟨0, by decide, by decide⟩

/-- The instant with a count of nanoseconds, if the count is within the limits. -/
def ofNanoseconds? (count : Int) : Option Instant :=
  if within : -377705023201000000000 ≤ count ∧ count ≤ 253402207200999999999 then
    some ⟨count, within.1, within.2⟩
  else none

theorem ofNanoseconds?_eq_some_iff {count : Int} {a : Instant} :
    ofNanoseconds? count = some a ↔ a.nanoseconds = count := by
  unfold ofNanoseconds?
  constructor
  · intro found
    split at found
    · simp only [Option.some.injEq] at found
      exact found ▸ rfl
    · contradiction
  · rintro rfl
    rw [dif_pos ⟨a.lower_le, a.le_upper⟩]

/-- The order of two instants on the line of time. -/
def order (a b : Instant) : Ordering :=
  compare a.nanoseconds b.nanoseconds

/-- The last whole millisecond at or before an instant.  The lower limit is a whole millisecond
itself, so that rounding down stays within the limits. -/
def floorMillisecond (a : Instant) : Instant where
  nanoseconds := a.nanoseconds / 1000000 * 1000000
  lower_le := by
    have := a.lower_le
    omega
  le_upper := by
    have := a.le_upper
    omega

/-- The local datetime of an instant in the zone a number of seconds east. -/
def atOffset (a : Instant) (seconds : Int) : Civil.DateTime :=
  Civil.DateTime.ofNanos (a.nanoseconds + seconds * Civil.secondNanos)

/-- An instant as it is written: its datetime at offset zero, and a `Z`. -/
def text (a : Instant) : String :=
  (a.atOffset 0).text ++ "Z"

end Instant
end Chronometry
