import Chronometry.Proofs.Civil.Months

/-!
# The direction of a difference

The months between two dates are counted forward or backward, and no part of the difference points
the other way.  Counting one month fewer where the days would overshoot, and carrying a year where
the months would point back, are made for this.  The direction is that of the day numbers, so that
weeks and days agree with it as well.
-/

namespace Chronometry
namespace Civil

variable {first last : Date}

/-! ## Earlier and later dates -/

theorem daysBeforeMonth_add_le (leap : Bool) {month later : Nat} (low : 1 ≤ month)
    (earlier : month < later) (high : later ≤ 12) :
    daysBeforeMonth leap month + monthLength leap month ≤ daysBeforeMonth leap later := by
  induction later with
  | zero => contradiction
  | succ between inductionHypothesis =>
      rw [daysBeforeMonth_succ leap (by omega)]
      rcases Nat.lt_succ_iff_lt_or_eq.mp earlier with before | rfl
      · have reached := inductionHypothesis before (by omega)
        omega
      · exact Nat.le_refl _

theorem Date.ordinal_lt_yearLength (date : Date) :
    date.ordinal < yearLength (isLeapYear date.year) := by
  have inYear :=
    daysBeforeMonth_add_monthLength_le (isLeapYear date.year) date.month_pos date.month_le
  have low := date.day_pos
  have high := date.day_le
  rw [ordinal]
  omega

theorem Date.dayNumber_lt_of_year_lt (earlier : first.year < last.year) :
    first.dayNumber < last.dayNumber := by
  have years := daysBeforeYear_mono (show first.year + 1 ≤ last.year from earlier)
  have inYear := first.ordinal_lt_yearLength
  rw [daysBeforeYear_succ] at years
  simp only [dayNumber]
  omega

theorem Date.dayNumber_lt_of_month_lt (sameYear : first.year = last.year)
    (earlier : first.month < last.month) :
    first.dayNumber < last.dayNumber := by
  have months :=
    daysBeforeMonth_add_le (isLeapYear first.year) first.month_pos earlier last.month_le
  have low := first.day_pos
  have high := first.day_le
  simp only [dayNumber, ordinal, ← sameYear]
  omega

/-- Between different months the direction is that of the months, and so that of the days. -/
theorem Date.dayNumber_lt_of_direction :
    (first.direction last = 1 -> first.dayNumber < last.dayNumber) ∧
      (first.direction last = -1 -> last.dayNumber < first.dayNumber) := by
  unfold direction
  split
  · next sameYear =>
    rcases signOf_cases ((last.month : Int) - first.month)
      with ⟨less, sign⟩ | ⟨_, sign⟩ | ⟨more, sign⟩ <;> rw [sign]
    · exact ⟨nofun, fun _ => dayNumber_lt_of_month_lt (by omega) (by omega)⟩
    · exact ⟨nofun, nofun⟩
    · exact ⟨fun _ => dayNumber_lt_of_month_lt (by omega) (by omega), nofun⟩
  · rcases signOf_cases (last.year - first.year)
      with ⟨less, sign⟩ | ⟨_, sign⟩ | ⟨more, sign⟩ <;> rw [sign]
    · exact ⟨nofun, fun _ => dayNumber_lt_of_year_lt (by omega)⟩
    · exact ⟨nofun, nofun⟩
    · exact ⟨fun _ => dayNumber_lt_of_year_lt (by omega), nofun⟩

/-! ## No part points the other way -/

/-- Years and months that together point in a direction both point in it once a year is carried. -/
theorem foldYears_along {direction years months : Int} (directed : direction = -1 ∨ direction = 1)
    (total : 0 ≤ direction * (years * 12 + months)) (small : months.natAbs < 12) :
    0 ≤ direction * (foldYears direction years months).1 ∧
      0 ≤ direction * (foldYears direction years months).2 := by
  unfold foldYears
  rcases signOf_cases months with ⟨_, sign⟩ | ⟨_, sign⟩ | ⟨_, sign⟩ <;>
    rcases directed with rfl | rfl <;> rw [sign] <;>
    split <;> dsimp only <;> omega

theorem months_along (apart : ¬first.SameMonth last) :
    1 ≤ first.direction last * ((last.year - first.year) * 12 + (last.month - first.month)) := by
  have low := first.month_pos
  have high := first.month_le
  have lastLow := last.month_pos
  have lastHigh := last.month_le
  unfold Date.SameMonth at apart
  unfold Date.direction
  split
  · rcases signOf_cases ((last.month : Int) - first.month)
      with ⟨_, sign⟩ | ⟨_, sign⟩ | ⟨_, sign⟩ <;> rw [sign] <;> omega
  · rcases signOf_cases (last.year - first.year)
      with ⟨_, sign⟩ | ⟨_, sign⟩ | ⟨_, sign⟩ <;>
      rw [sign] <;> omega

theorem reachedMonth_total (first last : Date) :
    (first.reachedMonth last).1 * 12 + (first.reachedMonth last).2 =
      last.year * 12 + last.month - if first.Overshoots last then first.direction last else 0 := by
  have stepped := stepMonth_spec last.year last.month (-first.direction last)
  unfold Date.reachedMonth
  split
  · omega
  · dsimp only
    omega

/-- The month that is reached is not beyond the last one, and not on the other side of the first
one. -/
theorem reachedMonth_along (apart : ¬first.SameMonth last) :
    0 ≤ first.direction last *
      (((first.reachedMonth last).1 - first.year) * 12 +
        ((first.reachedMonth last).2 - first.month)) := by
  have total := reachedMonth_total first last
  have months := months_along apart
  rcases direction_of_apart apart with backward | forward
  · rw [backward] at months total ⊢
    split at total <;> omega
  · rw [forward] at months total ⊢
    split at total <;> omega

/-- The days that are left are counted in the direction of the months. -/
theorem days_along (apart : ¬first.SameMonth last) :
    0 ≤ first.direction last *
      (last.day - first.dayIn (first.reachedMonth last).1 (first.reachedMonth last).2 +
        first.gap last) := by
  have low := last.day_pos
  have high := last.day_le
  by_cases overshoots : first.Overshoots last
  · rw [Date.gap, if_pos overshoots, Date.dayIn]
    rcases direction_of_apart apart with backward | forward
    · rw [backward, if_pos (by omega)]
      omega
    · rw [forward, if_neg (by omega)]
      omega
  · have reached : first.reachedMonth last = (last.year, last.month) := if_neg overshoots
    rw [Date.gap, if_neg overshoots, reached, Date.dayIn]
    dsimp only
    rw [Date.Overshoots] at overshoots
    rcases direction_of_apart apart with directed | directed <;> rw [directed] at overshoots ⊢ <;>
      rcases signOf_cases ((last.day : Int) - first.day)
        with ⟨_, sign⟩ | ⟨_, sign⟩ | ⟨_, sign⟩ <;>
      rw [sign] at overshoots <;> omega

/-! ## Parts of a difference -/

/-- Counts of date grains that do not point against a sign. -/
def Along (sign : Int) (dates : Int × Int × Int × Int) : Prop :=
  0 ≤ sign * dates.1 ∧ 0 ≤ sign * dates.2.1 ∧ 0 ≤ sign * dates.2.2.1 ∧
    0 ≤ sign * dates.2.2.2

/-- The parts of a difference point to the later date. -/
theorem partsUntil_along {sign : Int} (signed : sign = -1 ∨ sign = 1)
    (ordered : 0 ≤ sign * (last.dayNumber - first.dayNumber)) :
    0 ≤ sign * (first.partsUntil last).1 ∧ 0 ≤ sign * (first.partsUntil last).2.1 ∧
      0 ≤ sign * (first.partsUntil last).2.2 := by
  by_cases near : first.SameMonth last
  · rw [partsUntil_of_sameMonth near]
    rw [first.dayNumber_eq_monthStart, last.dayNumber_eq_monthStart, near.1, near.2] at ordered
    dsimp only
    refine ⟨by omega, by omega, ?_⟩
    rcases signed with rfl | rfl <;> omega
  · have same : sign = first.direction last := by
      rcases direction_of_apart near with backward | forward
      · have later := Date.dayNumber_lt_of_direction.2 backward
        rcases signed with rfl | rfl <;> omega
      · have later := Date.dayNumber_lt_of_direction.1 forward
        rcases signed with rfl | rfl <;> omega
    have low := first.month_pos
    have high := first.month_le
    have reached := first.reachedMonth_isMonth last
    have folded := foldYears_along (direction_of_apart near) (reachedMonth_along near) (by omega)
    rw [partsUntil_of_apart near, same]
    exact ⟨folded.1, folded.2, days_along near⟩

/-- Whole weeks and the days that are left over have the sign of the days. -/
theorem weeks_along {sign days : Int} (signed : sign = -1 ∨ sign = 1)
    (ordered : 0 ≤ sign * days) :
    0 ≤ sign * days.tdiv 7 ∧ 0 ≤ sign * days.tmod 7 := by
  rcases signed with rfl | rfl
  · rw [Int.neg_one_mul] at ordered
    rw [Int.neg_one_mul, Int.neg_one_mul, ← Int.neg_tdiv, ← Int.neg_tmod]
    exact ⟨Int.tdiv_nonneg ordered (by decide), Int.tmod_nonneg 7 ordered⟩
  · rw [Int.one_mul] at ordered
    rw [Int.one_mul, Int.one_mul]
    exact ⟨Int.tdiv_nonneg ordered (by decide), Int.tmod_nonneg 7 ordered⟩

/-- The fields of a difference in calendar grains point to the later date. -/
theorem fieldsUntil_along {sign : Int} (signed : sign = -1 ∨ sign = 1)
    (ordered : 0 ≤ sign * (last.dayNumber - first.dayNumber)) (largest : Grain) :
    Along sign (first.fieldsUntil last largest) := by
  have nothing : 0 ≤ sign * 0 := by omega
  have weeks := weeks_along signed ordered
  have along := partsUntil_along signed ordered
  rcases parts : first.partsUntil last with ⟨years, months, days⟩
  rw [parts] at along
  dsimp only at along
  cases largest
  case year =>
    rw [Date.fieldsUntil, parts]
    exact ⟨along.1, along.2.1, nothing, along.2.2⟩
  case month =>
    rw [Date.fieldsUntil, parts]
    refine ⟨nothing, ?_, nothing, along.2.2⟩
    rcases signed with rfl | rfl <;> dsimp only <;> omega
  all_goals exact ⟨nothing, nothing, weeks⟩

end Civil
end Chronometry
