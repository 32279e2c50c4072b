import Chronometry.Instant.Basic
import Chronometry.Zone.Offset

/-!
# Local datetimes as a line

A local datetime is a count of nanoseconds, and a date is a count of days; to move a datetime by
days is to add to both.  The years that can be written are a stretch of this line.  It is wide
enough for the local datetime of every instant in the zone of every offset, so that no instant is
lost at the ends of the calendar.
-/

namespace Chronometry
namespace Civil

/-! ## Years -/

theorem le_yearOfDay {year day : Int} (begun : daysBeforeYear year ≤ day) :
    year ≤ yearOfDay day := by
  apply Int.not_lt.mp
  intro earlier
  have ordered := daysBeforeYear_mono (show yearOfDay day + 1 ≤ year from earlier)
  have before := lt_daysBeforeYear_succ day
  omega

theorem yearOfDay_le {year day : Int} (unfinished : day < daysBeforeYear (year + 1)) :
    yearOfDay day ≤ year := by
  apply Int.not_lt.mp
  intro later
  have ordered := daysBeforeYear_mono (show year + 1 ≤ yearOfDay day from later)
  have found := daysBeforeYear_yearOfDay_le day
  omega

theorem Date.year_ofDayNumber (number : Int) :
    (ofDayNumber number).year = yearOfDay (number + epochDay) := rfl

/-- A datetime whose count lies between the two ends of the calendar has a year that can be
written. -/
theorem DateTime.yearInRange_of_toNanos {civil : DateTime} (begun : calendarStart ≤ civil.toNanos)
    (unfinished : civil.toNanos ≤ calendarEnd) : yearInRange civil.date.year = true := by
  have start : calendarStart = (daysBeforeYear (-9999) - epochDay) * dayNanos := rfl
  have finish : calendarEnd = (daysBeforeYear (9999 + 1) - epochDay) * dayNanos - 1 := rfl
  have inDay := civil.time.inDay
  rw [start] at begun
  rw [finish] at unfinished
  simp only [toNanos, dayNanos] at begun unfinished inDay
  rw [← Date.ofDayNumber_dayNumber civil.date, Date.year_ofDayNumber]
  have first : -9999 ≤ yearOfDay (civil.date.dayNumber + epochDay) := le_yearOfDay (by omega)
  have last : yearOfDay (civil.date.dayNumber + epochDay) ≤ 9999 := yearOfDay_le (by omega)
  exact decide_eq_true ⟨first, last⟩

/-! ## Days and offsets -/

/-- The same time of day some days later is as many days further on the line. -/
theorem DateTime.toNanos_addDays (civil : DateTime) (days : Int) :
    (⟨civil.date.addDays days, civil.time⟩ : DateTime).toNanos =
      civil.toNanos + days * dayNanos := by
  simp only [toNanos, Date.addDays, Date.dayNumber_ofDayNumber, dayNanos]
  omega

/-- A date is known by its count. -/
theorem Date.dayNumber_inj {date other : Date} :
    date.dayNumber = other.dayNumber ↔ date = other := by
  constructor
  · intro same
    rw [← ofDayNumber_dayNumber date, same, ofDayNumber_dayNumber]
  · rintro rfl
    rfl

/-- A datetime is known by its count. -/
theorem DateTime.toNanos_inj {civil other : DateTime} :
    civil.toNanos = other.toNanos ↔ civil = other := by
  constructor
  · intro same
    rw [← ofNanos_toNanos civil, same, ofNanos_toNanos]
  · rintro rfl
    rfl

end Civil

namespace Instant

open Civil

theorem toNanos_atOffset (i : Instant) (seconds : Int) :
    (i.atOffset seconds).toNanos = i.nanoseconds + seconds * secondNanos :=
  DateTime.toNanos_ofNanos _

/-- The limits of instants lie within the years that can be written, at every offset. -/
theorem yearInRange_atOffset (i : Instant) {seconds : Int}
    (admitted : seconds.natAbs ≤ Offset.limit) :
    yearInRange (i.atOffset seconds).date.year = true := by
  have start : calendarStart = -377705116800000000000 := by decide
  have finish : calendarEnd = 253402300799999999999 := by decide
  have lower := i.lower_le
  have upper := i.le_upper
  simp only [Offset.limit] at admitted
  apply DateTime.yearInRange_of_toNanos
  · rw [toNanos_atOffset, start, secondNanos]
    omega
  · rw [toNanos_atOffset, finish, secondNanos]
    omega

end Instant
end Chronometry
