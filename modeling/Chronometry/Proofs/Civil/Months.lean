import Chronometry.Duration.Relative

/-!
# Months between dates

Months have different lengths, so that years and months are counted on the calendar: whole months
lead from a date to a month, in which its day is lowered to the length of the month, and days lead
on from there.  Counting the difference of two dates in this way, forward or backward, loses no day.
The date that the counted months reach and the counted days together make up the last date again, at
the end of a long month and before a short one as well.
-/

namespace Chronometry
namespace Civil

/-- The number of the first day of a month, from 1970-01-01. -/
def monthStart (year : Int) (month : Nat) : Int :=
  daysBeforeYear year - epochDay + daysBeforeMonth (isLeapYear year) month

/-- The day in a month on which a count of whole months from a date comes out. -/
def Date.dayIn (date : Date) (year : Int) (month : Nat) : Nat :=
  min date.day (monthLength (isLeapYear year) month)

theorem Date.dayNumber_eq_monthStart (date : Date) :
    date.dayNumber = monthStart date.year date.month + (date.day - 1) := by
  have day := date.day_pos
  simp only [dayNumber, ordinal, monthStart]
  omega

theorem Date.dayIn_self (date : Date) : date.dayIn date.year date.month = date.day :=
  Nat.min_eq_left date.day_le

theorem daysBeforeMonth_succ (leap : Bool) {month : Nat} (low : 1 ≤ month) :
    daysBeforeMonth leap (month + 1) = daysBeforeMonth leap month + monthLength leap month := by
  cases month with
  | zero => contradiction
  | succ month => rfl

variable {year next : Int} {month following : Nat}

/-- A month begins when the month before it is over, in the same year or in the next. -/
theorem monthStart_next (low : 1 ≤ month) (high : month ≤ 12) (first : 1 ≤ following)
    (last : following ≤ 12) (follows : next * 12 + following = year * 12 + month + 1) :
    monthStart next following = monthStart year month + monthLength (isLeapYear year) month := by
  rcases Nat.lt_or_ge month 12 with early | december
  · obtain rfl : following = month + 1 := by omega
    obtain rfl : next = year := by omega
    rw [monthStart, monthStart, daysBeforeMonth_succ _ low]
    omega
  · obtain rfl : month = 12 := by omega
    obtain rfl : following = 1 := by omega
    obtain rfl : next = year + 1 := by omega
    have whole : ∀ leap : Bool,
        daysBeforeMonth leap 12 + monthLength leap 12 = yearLength leap := by decide
    have sum := whole (isLeapYear year)
    have january : daysBeforeMonth (isLeapYear (year + 1)) 1 = 0 := rfl
    rw [monthStart, monthStart, january, daysBeforeYear_succ, ← sum]
    omega

/-- Months added to a date lead to the month that is as far away, and to its last day where it has
too few. -/
theorem Date.dayNumber_addMonths {date : Date} {months : Int} (low : 1 ≤ month) (high : month ≤ 12)
    (reached : year * 12 + month = date.year * 12 + date.month + months) :
    (date.addMonths months).dayNumber = monthStart year month + (date.dayIn year month - 1) := by
  have total : date.year * 12 + (date.month - 1) + months = year * 12 + (month - 1) := by omega
  have sameYear : (date.year * 12 + (date.month - 1) + months) / 12 = year := by omega
  have sameMonth : ((date.year * 12 + (date.month - 1) + months) % 12).toNat + 1 = month := by omega
  have days := monthLength_pos (isLeapYear year) month low high
  have day := date.day_pos
  have clampedDay : max 1 (min date.day (monthLength (isLeapYear year) month)) =
      date.dayIn year month := by
    rw [dayIn]
    omega
  rw [dayNumber_eq_monthStart]
  simp only [addMonths, clamped, sameYear, sameMonth, clampedDay]

theorem Date.addMonths_zero (date : Date) : (date.addMonths 0).dayNumber = date.dayNumber := by
  rw [date.dayNumber_addMonths date.month_pos date.month_le (Int.add_zero _).symm, date.dayIn_self,
    date.dayNumber_eq_monthStart]

theorem stepMonth_spec (year : Int) (month : Nat) (step : Int) :
    1 ≤ (stepMonth year month step).2 ∧ (stepMonth year month step).2 ≤ 12 ∧
      (stepMonth year month step).1 * 12 + (stepMonth year month step).2 =
        year * 12 + month + step := by
  simp only [stepMonth]
  omega

/-! ## Differences -/

theorem signOf_cases (n : Int) :
    n < 0 ∧ signOf n = -1 ∨ n = 0 ∧ signOf n = 0 ∨ 0 < n ∧ signOf n = 1 := by
  unfold signOf
  split
  · exact Or.inl ⟨by assumption, rfl⟩
  · split
    · exact Or.inr (Or.inl ⟨by assumption, rfl⟩)
    · exact Or.inr (Or.inr ⟨by omega, rfl⟩)

/-- The dates lie in one month of one year. -/
def Date.SameMonth (first last : Date) : Prop :=
  last.year = first.year ∧ last.month = first.month

instance (first last : Date) : Decidable (first.SameMonth last) :=
  inferInstanceAs (Decidable (_ ∧ _))

/-- Whether the months from one date to another are counted forward or backward. -/
def Date.direction (first last : Date) : Int :=
  signOf (if last.year - first.year = 0 then (last.month : Int) - first.month
    else last.year - first.year)

/-- Counting as many months as lie between the two dates would go beyond the last one. -/
def Date.Overshoots (first last : Date) : Prop :=
  signOf ((last.day : Int) - first.day) = -first.direction last

instance (first last : Date) : Decidable (first.Overshoots last) :=
  inferInstanceAs (Decidable (_ = _))

/-- The month in which the count of whole months comes out: that of the last date, or one month less
far away. -/
def Date.reachedMonth (first last : Date) : Int × Nat :=
  if first.Overshoots last then stepMonth last.year last.month (-first.direction last)
    else (last.year, last.month)

/-- The days between the first of the month that is reached and the first of the month of the last
date. -/
def Date.gap (first last : Date) : Int :=
  if first.Overshoots last then
    if first.direction last < 0 then -monthLength (isLeapYear last.year) last.month
    else monthLength (isLeapYear (first.reachedMonth last).1) (first.reachedMonth last).2
  else 0

/-- Years and months that have opposite signs are made to have the same sign, at the cost of a
year. -/
def foldYears (direction years months : Int) : Int × Int :=
  if years ≠ 0 ∧ signOf months = -direction then (years - direction, months + 12 * direction)
    else (years, months)

theorem foldYears_total (direction years months : Int) :
    (foldYears direction years months).1 * 12 + (foldYears direction years months).2 =
      years * 12 + months := by
  unfold foldYears
  split
  · simp only
    omega
  · rfl

variable {first last : Date}

/-- Within one month only days are counted. -/
theorem partsUntil_of_sameMonth (near : first.SameMonth last) :
    first.partsUntil last = (0, 0, (last.day : Int) - first.day) := by
  unfold Date.SameMonth at near
  rw [Date.partsUntil, if_pos (by omega)]

/-- Between different months whole months are counted first, and then the days from where they come
out. -/
theorem partsUntil_of_apart (apart : ¬first.SameMonth last) :
    first.partsUntil last =
      ((foldYears (first.direction last) ((first.reachedMonth last).1 - first.year)
          ((first.reachedMonth last).2 - first.month)).1,
        (foldYears (first.direction last) ((first.reachedMonth last).1 - first.year)
          ((first.reachedMonth last).2 - first.month)).2,
        last.day - first.dayIn (first.reachedMonth last).1 (first.reachedMonth last).2 +
          first.gap last) := by
  have distance : ¬(last.year - first.year = 0 ∧ (last.month : Int) - first.month = 0) := by
    unfold Date.SameMonth at apart
    omega
  rw [Date.partsUntil, if_neg distance]
  by_cases opposed : (first.reachedMonth last).1 - first.year ≠ 0 ∧
      signOf ((first.reachedMonth last).2 - first.month) = -first.direction last
  · rw [foldYears, if_pos opposed]
    exact if_pos opposed
  · rw [foldYears, if_neg opposed]
    exact if_neg opposed

theorem direction_of_apart (apart : ¬first.SameMonth last) :
    first.direction last = -1 ∨ first.direction last = 1 := by
  unfold Date.direction
  rcases signOf_cases (if last.year - first.year = 0 then (last.month : Int) - first.month
    else last.year - first.year) with ⟨_, sign⟩ | ⟨zero, _⟩ | ⟨_, sign⟩
  · exact Or.inl sign
  · unfold Date.SameMonth at apart
    split at zero <;> omega
  · exact Or.inr sign

/-- Where one month fewer is counted, its days are added: those of the last month when counting
backward, and those of the month that is reached when counting forward. -/
theorem monthStart_reachedMonth
    (directed : first.direction last = -1 ∨ first.direction last = 1) :
    monthStart (first.reachedMonth last).1 (first.reachedMonth last).2 + first.gap last =
      monthStart last.year last.month := by
  by_cases overshoots : first.Overshoots last
  · rcases stepMonth_spec last.year last.month (-first.direction last)
      with ⟨low, high, stepped⟩
    rw [Date.gap, if_pos overshoots, Date.reachedMonth, if_pos overshoots]
    rcases directed with backward | forward
    · have follows : (stepMonth last.year last.month (-first.direction last)).1 * 12 +
          (stepMonth last.year last.month (-first.direction last)).2 =
            last.year * 12 + last.month + 1 := by omega
      rw [if_pos (by omega), monthStart_next last.month_pos last.month_le low high follows]
      omega
    · have follows : last.year * 12 + last.month =
          (stepMonth last.year last.month (-first.direction last)).1 * 12 +
          (stepMonth last.year last.month (-first.direction last)).2 + 1 := by omega
      rw [if_neg (by omega), monthStart_next low high last.month_pos last.month_le follows]
  · rw [Date.gap, if_neg overshoots, Date.reachedMonth, if_neg overshoots]
    exact Int.add_zero _

theorem Date.reachedMonth_isMonth (first last : Date) :
    1 ≤ (first.reachedMonth last).2 ∧ (first.reachedMonth last).2 ≤ 12 := by
  unfold reachedMonth
  split
  · have stepped := stepMonth_spec last.year last.month (-first.direction last)
    exact ⟨stepped.1, stepped.2.1⟩
  · exact ⟨last.month_pos, last.month_le⟩

/-- Years, months and days that lead from one date to another: the years and months are added
first. -/
def LeadsTo (first last : Date) (years months days : Int) : Prop :=
  (first.addMonths (years * 12 + months)).dayNumber + days = last.dayNumber

/-- The parts of the difference of two dates lead from the one to the other. -/
theorem partsUntil_leadsTo (first last : Date) :
    LeadsTo first last (first.partsUntil last).1 (first.partsUntil last).2.1
      (first.partsUntil last).2.2 := by
  unfold LeadsTo
  by_cases near : first.SameMonth last
  · rw [partsUntil_of_sameMonth near]
    change (first.addMonths 0).dayNumber + ((last.day : Int) - first.day) = _
    rw [first.addMonths_zero, first.dayNumber_eq_monthStart, last.dayNumber_eq_monthStart,
      near.1, near.2]
    omega
  · have arrives := monthStart_reachedMonth (direction_of_apart near)
    rcases first.reachedMonth_isMonth last with ⟨low, high⟩
    have total := foldYears_total (first.direction last) ((first.reachedMonth last).1 - first.year)
      ((first.reachedMonth last).2 - first.month)
    have reached : (first.reachedMonth last).1 * 12 + (first.reachedMonth last).2 =
        first.year * 12 + first.month +
        (((first.reachedMonth last).1 - first.year) * 12 +
          ((first.reachedMonth last).2 - first.month)) := by
      omega
    rw [partsUntil_of_apart near]
    dsimp only
    rw [total, Date.dayNumber_addMonths low high reached, last.dayNumber_eq_monthStart]
    omega

/-- The fields of a difference in calendar grains lead from one date to the other. -/
theorem fieldsUntil_leadsTo (first last : Date) {largest : Grain}
    (calendar : largest.isCalendar = true) :
    LeadsTo first last (first.fieldsUntil last largest).1 (first.fieldsUntil last largest).2.1
      ((first.fieldsUntil last largest).2.2.1 * 7 + (first.fieldsUntil last largest).2.2.2) := by
  have parts := partsUntil_leadsTo first last
  unfold LeadsTo at parts ⊢
  cases largest with
  | year =>
      simp only [Date.fieldsUntil, Int.zero_mul, Int.zero_add]
      exact parts
  | month =>
      simp only [Date.fieldsUntil, Int.zero_mul, Int.zero_add]
      exact parts
  | week =>
      simp only [Date.fieldsUntil]
      change (first.addMonths 0).dayNumber + _ = _
      rw [first.addMonths_zero]
      have weeks := Int.tdiv_mul_add_tmod (last.dayNumber - first.dayNumber) 7
      omega
  | day | hour | minute | second | millisecond | microsecond | nanosecond =>
      exact absurd calendar (by decide)

end Civil
end Chronometry
