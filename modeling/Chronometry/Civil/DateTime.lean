import Chronometry.Civil.Date

/-!
# Times of day and local datetimes

A time of day is a count of nanoseconds below the length of a day.  A local datetime is a date with
a time of day; read as if it stood in the zone of offset zero it is a count of nanoseconds from
1970-01-01T00:00:00, and every count is one local datetime.
-/

namespace Chronometry
namespace Civil

/-- Nanoseconds in a second. -/
def secondNanos : Nat := 1000000000

/-- Nanoseconds in a day. -/
def dayNanos : Nat := 86400000000000

/-- The first nanosecond of a year, from 1970-01-01T00:00:00. -/
def yearStart (year : Int) : Int :=
  (daysBeforeYear year - epochDay) * dayNanos

/-- The last nanosecond of a year, from 1970-01-01T00:00:00. -/
def yearEnd (year : Int) : Int :=
  yearStart (year + 1) - 1

theorem yearStart_le_yearEnd (year : Int) : yearStart year ≤ yearEnd year := by
  have := daysBeforeYear_succ year
  simp only [yearStart, yearEnd, yearLength, dayNanos] at *
  omega

/-- The first nanosecond of the years that a written date may have, from 1970-01-01T00:00:00. -/
def calendarStart : Int :=
  yearStart (-9999)

/-- The last nanosecond of the years that a written date may have, from 1970-01-01T00:00:00. -/
def calendarEnd : Int :=
  yearEnd 9999

/-- A time of day, to the nanosecond. -/
structure TimeOfDay where
  nanoOfDay : Nat
  inDay : nanoOfDay < dayNanos
deriving DecidableEq

namespace TimeOfDay

def midnight : TimeOfDay := ⟨0, by decide⟩

def noon : TimeOfDay := ⟨43200000000000, by decide⟩

/-- The time with these parts, if each is below the next larger unit. -/
def ofParts? (hour minute second nanosecond : Nat) : Option TimeOfDay :=
  if valid : hour < 24 ∧ minute < 60 ∧ second < 60 ∧ nanosecond < secondNanos then
    some ⟨((hour * 60 + minute) * 60 + second) * secondNanos + nanosecond, by
      simp only [secondNanos, dayNanos] at *
      omega⟩
  else none

def hour (time : TimeOfDay) : Nat := time.nanoOfDay / 3600000000000

def minute (time : TimeOfDay) : Nat := time.nanoOfDay / 60000000000 % 60

def second (time : TimeOfDay) : Nat := time.nanoOfDay / secondNanos % 60

def nanosecond (time : TimeOfDay) : Nat := time.nanoOfDay % secondNanos

/-- The hour on a clock of twelve hours, from 1 to 12. -/
def clockHour (time : TimeOfDay) : Nat := (time.hour + 11) % 12 + 1

/-- A time as it is written: hours, minutes and seconds with colons between, and the fraction if
there is one. -/
def text (time : TimeOfDay) : String :=
  Text.zeroPadded 2 time.hour ++ ":" ++ Text.zeroPadded 2 time.minute ++ ":" ++
    Text.zeroPadded 2 time.second ++ Text.pointedFraction 9 time.nanosecond

end TimeOfDay

/-- A date with a time of day. -/
structure DateTime where
  date : Date
  time : TimeOfDay
deriving DecidableEq

namespace DateTime

/-- The nanoseconds from 1970-01-01T00:00:00, both read in one zone. -/
def toNanos (civil : DateTime) : Int :=
  civil.date.dayNumber * dayNanos + civil.time.nanoOfDay

/-- The local datetime a number of nanoseconds from 1970-01-01T00:00:00. -/
def ofNanos (nanos : Int) : DateTime where
  date := Date.ofDayNumber (nanos / dayNanos)
  time := ⟨(nanos % dayNanos).toNat, by
    simp only [dayNanos]
    omega⟩

theorem toNanos_ofNanos (nanos : Int) : (ofNanos nanos).toNanos = nanos := by
  simp only [toNanos, ofNanos, Date.dayNumber_ofDayNumber, dayNanos]
  omega

theorem ofNanos_toNanos (civil : DateTime) : ofNanos civil.toNanos = civil := by
  obtain ⟨date, time, inDay⟩ := civil
  have day : (DateTime.mk date ⟨time, inDay⟩).toNanos / dayNanos = date.dayNumber := by
    simp only [toNanos, dayNanos] at inDay ⊢
    omega
  have rest : (DateTime.mk date ⟨time, inDay⟩).toNanos % dayNanos = time := by
    simp only [toNanos, dayNanos] at inDay ⊢
    omega
  simp only [ofNanos, day, rest, Date.ofDayNumber_dayNumber, Int.toNat_natCast]

/-- A local datetime as it is written: date and time with a `T` between. -/
def text (civil : DateTime) : String :=
  civil.date.text ++ "T" ++ civil.time.text

end DateTime
end Civil
end Chronometry
