import Chronometry.Proofs.Duration.Coarsest

/-!
# Signs and lengths

The fields of a duration have one sign.  Without calendar grains that sign is the sign of the
length, however the length is spread over the fields, and a length of zero leaves no field to be
anything else.
-/

namespace Chronometry

namespace Fields

/-- No field exceeds the length when none is negative. -/
theorem get_le_length {fields : Fields} (nonneg : ∀ grain, 0 ≤ fields.get grain) (grain : Grain)
    (fixed : grain.isCalendar = false) : fields.get grain ≤ fields.length := by
  have days := nonneg .day
  have hours := nonneg .hour
  have minutes := nonneg .minute
  have seconds := nonneg .second
  have milliseconds := nonneg .millisecond
  have microseconds := nonneg .microsecond
  have nanoseconds := nonneg .nanosecond
  simp only [get] at days hours minutes seconds milliseconds microseconds nanoseconds
  cases grain
  case year | month | week => exact absurd fixed (by decide)
  all_goals
    simp only [get, length]
    omega

theorem length_nonneg {fields : Fields} (nonneg : ∀ grain, 0 ≤ fields.get grain) :
    0 ≤ fields.length :=
  Int.le_trans (nonneg .nanosecond) (get_le_length nonneg .nanosecond rfl)

/-- The fields with the opposite counts. -/
def opposite (fields : Fields) : Fields :=
  ofCounts fun grain => -fields.get grain

@[simp] theorem get_opposite (fields : Fields) (grain : Grain) :
    fields.opposite.get grain = -fields.get grain :=
  get_ofCounts _ grain

@[simp] theorem length_opposite (fields : Fields) : fields.opposite.length = -fields.length := by
  simp only [opposite, ofCounts, length, get]
  omega

theorem opposite_nonneg {fields : Fields} (nonpos : ∀ grain, fields.get grain ≤ 0)
    (grain : Grain) :
    0 ≤ fields.opposite.get grain := by
  rw [get_opposite]
  exact Int.neg_nonneg.mpr (nonpos grain)

theorem length_le_get {fields : Fields} (nonpos : ∀ grain, fields.get grain ≤ 0) (grain : Grain)
    (fixed : grain.isCalendar = false) : fields.length ≤ fields.get grain := by
  have mirrored := get_le_length (opposite_nonneg nonpos) grain fixed
  rw [get_opposite, length_opposite] at mirrored
  exact Int.neg_le_neg_iff.mp mirrored

theorem length_nonpos {fields : Fields} (nonpos : ∀ grain, fields.get grain ≤ 0) :
    fields.length ≤ 0 :=
  Int.le_trans (length_le_get nonpos .nanosecond rfl) (nonpos .nanosecond)

end Fields

namespace Duration

theorem get_nonneg_or_nonpos (d : Duration) :
    (∀ grain, 0 ≤ d.get grain) ∨ ∀ grain, d.get grain ≤ 0 :=
  d.oneSigned

theorem get_eq_zero_of_isCalendar {d : Duration} (plain : ¬d.HasCalendarFields) {grain : Grain}
    (calendar : grain.isCalendar = true) : d.get grain = 0 := by
  simp only [HasCalendarFields, not_or, Decidable.not_not] at plain
  cases grain
  case year => exact plain.1
  case month => exact plain.2.1
  case week => exact plain.2.2
  all_goals exact absurd calendar (by decide)

/-- Without calendar grains a length of zero is that of the zero fields alone. -/
theorem length_eq_zero_iff {d : Duration} (plain : ¬d.HasCalendarFields) :
    d.length = 0 ↔ ∀ grain, d.get grain = 0 := by
  constructor
  · intro zero grain
    by_cases calendar : grain.isCalendar = true
    · exact get_eq_zero_of_isCalendar plain calendar
    · have fixed := Bool.eq_false_iff.mpr calendar
      rcases d.get_nonneg_or_nonpos with nonneg | nonpos
      · exact Int.le_antisymm (zero ▸ Fields.get_le_length nonneg grain fixed) (nonneg grain)
      · exact Int.le_antisymm (nonpos grain) (zero ▸ Fields.length_le_get nonpos grain fixed)
  · intro zero
    have fields : d.fields = .zero := Fields.ext_get fun grain => by
      rw [Fields.zero, Fields.get_ofCounts]
      exact zero grain
    rw [length, fields]
    rfl

/-- The sign of the fields is the sign of the length. -/
theorem sign_eq_sign_length {d : Duration} (plain : ¬d.HasCalendarFields) :
    d.sign = d.length.sign := by
  unfold sign
  by_cases zero : ∀ grain, d.get grain = 0
  · rw [if_pos zero, (length_eq_zero_iff plain).mpr zero]
    rfl
  · rw [if_neg zero]
    have nonzero : d.length ≠ 0 := fun none => zero ((length_eq_zero_iff plain).mp none)
    rcases d.get_nonneg_or_nonpos with nonneg | nonpos
    · have atLeast : 0 ≤ d.length := Fields.length_nonneg nonneg
      rw [if_pos nonneg, Int.sign_eq_one_of_pos (by omega)]
    · have atMost : d.length ≤ 0 := Fields.length_nonpos nonpos
      have mixed : ¬∀ grain, 0 ≤ d.get grain := fun nonneg =>
        zero fun grain => Int.le_antisymm (nonpos grain) (nonneg grain)
      rw [if_neg mixed, Int.sign_eq_neg_one_of_neg (by omega)]

theorem isZero_iff {d : Duration} (plain : ¬d.HasCalendarFields) :
    d.isZero = true ↔ d.length = 0 := by
  rw [isZero, decide_eq_true_iff, length_eq_zero_iff plain]

end Duration
end Chronometry
