import Chronometry.Duration.Basic
import Chronometry.Instant.Basic

/-!
# Durations relative to a local datetime

A local datetime gives calendar grains a length.  A duration is added to it field by field, and the
difference of two local datetimes is counted in fields from a given grain downward.  Counting a
duration anew goes from a datetime to the end of the duration and takes the difference back.
-/

namespace Chronometry

/-- The exact length of the fields of an hour or finer, in nanoseconds. -/
def Duration.clockLength (d : Duration) : Int :=
  d.length - d.get .day * Civil.dayNanos

namespace Civil

/-- The sign of a count: minus one, zero or one. -/
def signOf (n : Int) : Int :=
  if n < 0 then -1 else if n = 0 then 0 else 1

/-- The local datetime at the end of a duration.  The fields of the clock move the time of day and
carry whole days; years and months move the date within the lengths of the months; then come weeks,
days and the carried days. -/
def DateTime.add (civil : DateTime) (d : Duration) : DateTime :=
  let clock := civil.time.nanoOfDay + d.clockLength
  let date := civil.date.addMonths (d.get .year * 12 + d.get .month)
  { date := date.addDays (d.get .week * 7 + d.get .day + clock / dayNanos)
    time := ⟨(clock % dayNanos).toNat, by
      simp only [dayNanos]
      omega⟩ }

/-- A month with its year, one month later or earlier. -/
def stepMonth (year : Int) (month : Nat) (step : Int) : Int × Nat :=
  let total := year * 12 + (month - 1) + step
  (total / 12, (total % 12).toNat + 1)

/-- The years, months and days from one date to another.  Whole months are counted from the first
date, whose day is lowered to the length of the month that is reached; where its day lies beyond the
last date, one month fewer is counted and the days are counted from that month. -/
def Date.partsUntil (first last : Date) : Int × Int × Int :=
  let years := last.year - first.year
  let months : Int := last.month - first.month
  let days : Int := last.day - first.day
  if years = 0 ∧ months = 0 then (0, 0, days)
  else
    let sign := signOf (if years = 0 then months else years)
    let length := monthLength (isLeapYear last.year) last.month
    let overshoots := signOf days = -sign
    let (year, month) :=
      if overshoots then stepMonth last.year last.month (-sign) else (last.year, last.month)
    let reached := monthLength (isLeapYear year) month
    let correction : Int := if overshoots then if sign < 0 then -length else reached else 0
    let days := last.day - min first.day reached + correction
    let years := year - first.year
    let months : Int := month - first.month
    if years ≠ 0 ∧ signOf months = -sign then (years - sign, months + 12 * sign, days)
      else (years, months, days)

/-- The date fields of the difference of two dates: years, months, weeks and days, from a calendar
grain downward. -/
def Date.fieldsUntil (first last : Date) (largest : Grain) : Int × Int × Int × Int :=
  match largest with
  | .year =>
    let (years, months, days) := first.partsUntil last
    (years, months, 0, days)
  | .month =>
    let (years, months, days) := first.partsUntil last
    (0, years * 12 + months, 0, days)
  | _ =>
    let days := last.dayNumber - first.dayNumber
    (0, 0, days.tdiv 7, days.tmod 7)

/-- The difference of two local datetimes in fields from a given grain downward.  For calendar
grains the time of day is made to have the sign of the difference of dates, at the cost of a day. -/
def DateTime.until? (first last : DateTime) (largest : Grain) : Option Duration :=
  if !largest.isCalendar then Duration.balanced? largest (last.toNanos - first.toNanos)
  else
    let sign := signOf (last.date.dayNumber - first.date.dayNumber)
    let clock : Int := last.time.nanoOfDay - first.time.nanoOfDay
    let opposed := sign ≠ 0 ∧ signOf clock = -sign
    let date := if opposed then last.date.addDays (-sign) else last.date
    let clock := if opposed then clock + sign * dayNanos else clock
    let (years, months, weeks, days) := first.date.fieldsUntil date largest
    Duration.ofFields? { Fields.balanced .hour clock with years, months, weeks, days }

end Civil

namespace Duration

/-- A duration counted anew, in fields from the given grain downward, from a local datetime on.
Without calendar grains there is nothing to ask of the datetime; with them the datetime and the end
of the duration must be within the limits of instants. -/
def roundedFrom? (d : Duration) (largest : Grain) (civil : Civil.DateTime) : Option Duration :=
  if (largest.coarser d.coarsest).isCalendar then
    let last := civil.add d
    match Instant.ofNanoseconds? civil.toNanos, Instant.ofNanoseconds? last.toNanos with
    | some _, some _ => civil.until? last largest
    | _, _ => none
  else balanced? largest d.length

end Duration
end Chronometry
