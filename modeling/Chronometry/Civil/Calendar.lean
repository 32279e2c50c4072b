/-!
# The Gregorian calendar

Leap years, lengths of months and the day count of years, for the calendar extended without bound in
both directions.  Days are counted from 0001-01-01, the first day of a 400-year cycle of 146097
days.

The main statements are `daysBeforeYear_yearOfDay_le` and `lt_daysBeforeYear_succ`: the year found
for a day is one that the day lies in.  `yearOfDay_eq` says that there is no other one, and
`monthOfOrdinal_spec` and `monthOfOrdinal_eq` say the same of months within a year.
-/

namespace Chronometry
namespace Civil

/-- Every fourth year is a leap year, of the centuries every fourth. -/
def isLeapYear (year : Int) : Bool :=
  year % 4 = 0 ∧ (year % 100 ≠ 0 ∨ year % 400 = 0)

/-- The number of days in a year. -/
def yearLength (leap : Bool) : Nat :=
  365 + leap.toNat

/-- The number of days in a month; zero for what is not a month's number. -/
def monthLength (leap : Bool) : Nat -> Nat
  | 2 => 28 + leap.toNat
  | 4 | 6 | 9 | 11 => 30
  | 1 | 3 | 5 | 7 | 8 | 10 | 12 => 31
  | _ => 0

/-- The number of days of a year before the first of a month. -/
def daysBeforeMonth (leap : Bool) : Nat -> Nat
  | 0 | 1 => 0
  | month + 2 => daysBeforeMonth leap (month + 1) + monthLength leap (month + 1)

/-- The number of days from 0001-01-01 to the first day of a year. -/
def daysBeforeYear (year : Int) : Int :=
  365 * (year - 1) + (year - 1) / 4 - (year - 1) / 100 + (year - 1) / 400

theorem daysBeforeYear_succ (year : Int) :
    daysBeforeYear (year + 1) = daysBeforeYear year + yearLength (isLeapYear year) := by
  by_cases leap : isLeapYear year = true
  · have h := leap
    simp only [isLeapYear, decide_eq_true_eq] at h
    simp only [daysBeforeYear, yearLength, leap, Bool.toNat_true]
    omega
  · have h := leap
    simp only [isLeapYear, decide_eq_true_eq] at h
    simp only [Bool.not_eq_true] at leap
    simp only [daysBeforeYear, yearLength, leap, Bool.toNat_false]
    omega

/-- The year of a day counted from 0001-01-01.  The mean length of a year gives the year or the one
before it. -/
def yearOfDay (day : Int) : Int :=
  let estimate := day * 400 / 146097 + 1
  if daysBeforeYear (estimate + 1) ≤ day then estimate + 1 else estimate

theorem daysBeforeYear_yearOfDay_le (day : Int) : daysBeforeYear (yearOfDay day) ≤ day := by
  simp only [yearOfDay]
  split
  · assumption
  · unfold daysBeforeYear
    omega

theorem lt_daysBeforeYear_succ (day : Int) : day < daysBeforeYear (yearOfDay day + 1) := by
  simp only [yearOfDay]
  split
  · unfold daysBeforeYear
    omega
  · omega

theorem daysBeforeYear_mono {first last : Int} (ordered : first ≤ last) :
    daysBeforeYear first ≤ daysBeforeYear last := by
  unfold daysBeforeYear
  omega

/-- A day lies in one year only. -/
theorem yearOfDay_eq {year day : Int} (low : daysBeforeYear year ≤ day)
    (high : day < daysBeforeYear (year + 1)) :
    yearOfDay day = year := by
  have found := daysBeforeYear_yearOfDay_le day
  have before := lt_daysBeforeYear_succ day
  rcases Int.lt_trichotomy (yearOfDay day) year with earlier | same | later
  · have := daysBeforeYear_mono (show yearOfDay day + 1 ≤ year from earlier)
    omega
  · exact same
  · have := daysBeforeYear_mono (show year + 1 ≤ yearOfDay day from later)
    omega

/-- The month that holds a day of a year: the number of months that begin on or before the day. -/
def monthOfOrdinal (leap : Bool) (ordinal : Nat) : Nat :=
  ((List.range' 1 12).filter fun month => daysBeforeMonth leap month ≤ ordinal).length

/-- The month found for a day of the year begins on or before the day and ends after it. -/
theorem monthOfOrdinal_spec (leap : Bool) (ordinal : Nat) (inYear : ordinal < yearLength leap) :
    let month := monthOfOrdinal leap ordinal
    1 ≤ month ∧ month ≤ 12 ∧ daysBeforeMonth leap month ≤ ordinal ∧
      ordinal < daysBeforeMonth leap month + monthLength leap month := by
  revert leap ordinal
  decide +kernel

/-- A day of a year lies in one month only. -/
theorem monthOfOrdinal_eq (leap : Bool) {month day : Nat} (low : 1 ≤ month) (high : month ≤ 12)
    (inMonth : day < monthLength leap month) :
    monthOfOrdinal leap (daysBeforeMonth leap month + day) = month := by
  have every : ∀ leap : Bool, ∀ month ∈ List.range' 1 12, ∀ day < monthLength leap month,
      monthOfOrdinal leap (daysBeforeMonth leap month + day) = month := by decide +kernel
  exact every leap month (List.mem_range'_1.mpr (by omega)) day inMonth

theorem daysBeforeMonth_add_monthLength_le (leap : Bool) {month : Nat} (low : 1 ≤ month)
    (high : month ≤ 12) :
    daysBeforeMonth leap month + monthLength leap month ≤ yearLength leap := by
  have every : ∀ leap : Bool, ∀ month ∈ List.range' 1 12,
      daysBeforeMonth leap month + monthLength leap month ≤ yearLength leap := by decide
  exact every leap month (List.mem_range'_1.mpr (by omega))

end Civil
end Chronometry
