import Chronometry.Civil.Calendar
import Chronometry.Text.Digits

/-!
# Dates

A date is a year with a month and a day that exist in it.  `Date.dayNumber` counts days from
1970-01-01 and `Date.ofDayNumber` goes back, so that dates and day numbers correspond one to one.
Years are not bounded here: the places that admit only the years -9999 to 9999 ask `yearInRange`.
-/

namespace Chronometry
namespace Civil

/-- A date of the calendar. -/
structure Date where
  year : Int
  month : Nat
  day : Nat
  month_pos : 1 ≤ month
  month_le : month ≤ 12
  day_pos : 1 ≤ day
  day_le : day ≤ monthLength (isLeapYear year) month
deriving DecidableEq

/-- The years that a written date may have. -/
def yearInRange (year : Int) : Bool :=
  -9999 ≤ year ∧ year ≤ 9999

/-- The number of days from 0001-01-01 to 1970-01-01. -/
def epochDay : Int := 719162

/-- A year as it is written: four digits, or a minus and six digits. -/
def yearText (year : Int) : String :=
  if year < 0 then "-" ++ Text.zeroPadded 6 year.natAbs else Text.zeroPadded 4 year.natAbs

theorem monthLength_pos (leap : Bool) (month : Nat) (low : 1 ≤ month) (high : month ≤ 12) :
    1 ≤ monthLength leap month := by
  have every : ∀ leap : Bool, ∀ month ∈ List.range' 1 12, 1 ≤ monthLength leap month := by
    decide
  exact every leap month (List.mem_range'_1.mpr (by omega))

namespace Date

/-- The date with these parts, if there is one. -/
def ofParts? (year : Int) (month day : Nat) : Option Date :=
  if valid : (1 ≤ month ∧ month ≤ 12) ∧ 1 ≤ day ∧
    day ≤ monthLength (isLeapYear year) month then
    some ⟨year, month, day, valid.1.1, valid.1.2, valid.2.1, valid.2.2⟩
  else none

/-- The day of the year, counted from zero. -/
def ordinal (date : Date) : Nat :=
  daysBeforeMonth (isLeapYear date.year) date.month + (date.day - 1)

/-- The number of days from 1970-01-01. -/
def dayNumber (date : Date) : Int :=
  daysBeforeYear date.year + date.ordinal - epochDay

theorem ordinal_lt (day : Int) :
    (day - daysBeforeYear (yearOfDay day)).toNat < yearLength (isLeapYear (yearOfDay day)) := by
  have low := daysBeforeYear_yearOfDay_le day
  have high := lt_daysBeforeYear_succ day
  rw [daysBeforeYear_succ] at high
  omega

/-- The date that is a number of days from 1970-01-01. -/
def ofDayNumber (number : Int) : Date :=
  let day := number + epochDay
  let year := yearOfDay day
  let leap := isLeapYear year
  let ordinal := (day - daysBeforeYear year).toNat
  let month := monthOfOrdinal leap ordinal
  have spec := monthOfOrdinal_spec leap ordinal (ordinal_lt day)
  { year, month
    day := ordinal - daysBeforeMonth leap month + 1
    month_pos := spec.1
    month_le := spec.2.1
    day_pos := by omega
    day_le := by
      have low : daysBeforeMonth leap month ≤ ordinal := spec.2.2.1
      have high : ordinal < daysBeforeMonth leap month + monthLength (isLeapYear year) month :=
        spec.2.2.2
      omega }

theorem dayNumber_ofDayNumber (number : Int) : (ofDayNumber number).dayNumber = number := by
  have low := daysBeforeYear_yearOfDay_le (number + epochDay)
  have spec := monthOfOrdinal_spec _ _ (ordinal_lt (number + epochDay))
  simp only [ofDayNumber, dayNumber, ordinal] at spec ⊢
  omega

theorem ofDayNumber_dayNumber (date : Date) : ofDayNumber date.dayNumber = date := by
  obtain ⟨year, month, day, month_pos, month_le, day_pos, day_le⟩ := date
  have inYear := daysBeforeMonth_add_monthLength_le (isLeapYear year) month_pos month_le
  have succ := daysBeforeYear_succ year
  have sameDay : dayNumber ⟨year, month, day, month_pos, month_le, day_pos, day_le⟩ + epochDay
      = daysBeforeYear year + (daysBeforeMonth (isLeapYear year) month + (day - 1) : Nat) := by
    simp only [dayNumber, ordinal]
    omega
  have sameYear : yearOfDay
      (daysBeforeYear year + (daysBeforeMonth (isLeapYear year) month + (day - 1) : Nat)) = year :=
    yearOfDay_eq (by omega) (by omega)
  have sameMonth :=
    monthOfOrdinal_eq (isLeapYear year) month_pos month_le (show day - 1 < _ by omega)
  have sameOrdinal :
      (daysBeforeYear year + (daysBeforeMonth (isLeapYear year) month + (day - 1) : Nat)
      - daysBeforeYear year).toNat = daysBeforeMonth (isLeapYear year) month + (day - 1) := by
    omega
  simp only [ofDayNumber, sameDay, sameYear, sameOrdinal, sameMonth, mk.injEq, true_and]
  omega

/-- The date in a month with its day lowered to the last one of the month where that is needed. -/
def clamped (year : Int) (month day : Nat) (month_pos : 1 ≤ month) (month_le : month ≤ 12) :
    Date where
  year := year
  month := month
  day := max 1 (min day (monthLength (isLeapYear year) month))
  month_pos := month_pos
  month_le := month_le
  day_pos := by omega
  day_le := by
    have := monthLength_pos (isLeapYear year) month month_pos month_le
    omega

/-- The date some months later, the day lowered to the length of the month it comes to. -/
def addMonths (date : Date) (months : Int) : Date :=
  let total := date.year * 12 + (date.month - 1) + months
  clamped (total / 12) ((total % 12).toNat + 1) date.day (by omega) (by omega)

/-- The date some days later. -/
def addDays (date : Date) (days : Int) : Date :=
  ofDayNumber (date.dayNumber + days)

/-- The day of the week, counted from Sunday. -/
def weekday (date : Date) : Nat :=
  ((date.dayNumber + 4) % 7).toNat

/-- The year to which the week of a date belongs: the year of the Thursday of the week from Monday
to Sunday. -/
def weekYear (date : Date) : Int :=
  (date.addDays (3 - (date.dayNumber + 3) % 7)).year

/-- A date as it is written: year, month and day with hyphens between. -/
def text (date : Date) : String :=
  yearText date.year ++ "-" ++ Text.zeroPadded 2 date.month ++ "-" ++ Text.zeroPadded 2 date.day

end Date
end Civil
end Chronometry
