import Chronometry.Proofs.Civil.Direction
import Chronometry.Proofs.Civil.Timeline
import Chronometry.Proofs.Duration.Sign
import Chronometry.Proofs.Duration.Sum

/-!
# Durations counted anew

A duration that is counted anew from a local datetime leads from there to the same end.  Its date
fields lead from date to date and its clock fields make up for the times of day; where the two would
point in opposite directions a day is moved from the one to the other, and the sum stays what it
was.  Only grains from the given one downward are used, and without calendar grains the length is
kept as well.  Since all fields are counted in one direction, a duration can hold them unless a
limit is in the way.
-/

namespace Chronometry

open Civil

variable {civil first last : DateTime} {d s : Duration} {largest : Grain}

namespace Civil

/-- The end of a duration on the line of local datetimes. -/
theorem DateTime.toNanos_add (civil : DateTime) (d : Duration) :
    (civil.add d).toNanos =
      ((civil.date.addMonths (d.get .year * 12 + d.get .month)).dayNumber +
        (d.get .week * 7 + d.get .day)) * dayNanos +
        civil.time.nanoOfDay + d.clockLength := by
  simp only [add, toNanos, Date.addDays, Date.dayNumber_ofDayNumber, dayNanos]
  omega

/-- Without calendar grains a duration leads as far as it is long. -/
theorem DateTime.toNanos_add_of_plain (civil : DateTime) (plain : ¬d.HasCalendarFields) :
    (civil.add d).toNanos = civil.toNanos + d.length := by
  have years : d.get .year = 0 := Duration.get_eq_zero_of_isCalendar plain rfl
  have months : d.get .month = 0 := Duration.get_eq_zero_of_isCalendar plain rfl
  have weeks : d.get .week = 0 := Duration.get_eq_zero_of_isCalendar plain rfl
  rw [toNanos_add, years, months, weeks]
  change ((civil.date.addMonths 0).dayNumber + _) * _ + _ + _ = _
  rw [Date.addMonths_zero, Duration.clockLength, toNanos]
  simp only [dayNanos]
  omega

/-- Fields of a date difference with a clock difference behind them. -/
def withClock (dates : Int × Int × Int × Int) (clock : Int) : Fields :=
  { Fields.balanced .hour clock with
    years := dates.1, months := dates.2.1, weeks := dates.2.2.1, days := dates.2.2.2 }

theorem clockLength_of_withClock {dates : Int × Int × Int × Int} {clock : Int}
    (made : s.fields = withClock dates clock) :
    s.clockLength = clock := by
  have days : (Fields.balanced .hour clock).days = 0 := rfl
  have length := Fields.length_balanced .hour clock
  simp only [Fields.length, days] at length
  simp only [Duration.clockLength, Duration.length, Duration.get, made, withClock, Fields.length,
    Fields.get, dayNanos]
  omega

/-- The times of day differ in the direction opposite to that of the dates. -/
def DateTime.Opposed (first last : DateTime) : Prop :=
  signOf (last.date.dayNumber - first.date.dayNumber) ≠ 0 ∧
    signOf ((last.time.nanoOfDay : Int) - first.time.nanoOfDay) =
      -signOf (last.date.dayNumber - first.date.dayNumber)

instance (first last : DateTime) : Decidable (first.Opposed last) :=
  inferInstanceAs (Decidable (_ ∧ _))

/-- The date up to which calendar grains are counted: that of the last datetime, or one day less far
away. -/
def DateTime.dateUntil (first last : DateTime) : Date :=
  if first.Opposed last then
    last.date.addDays (-signOf (last.date.dayNumber - first.date.dayNumber)) else last.date

/-- The difference of the times of day, and a day where the date is one day less far away. -/
def DateTime.clockUntil (first last : DateTime) : Int :=
  if first.Opposed last then
    last.time.nanoOfDay - first.time.nanoOfDay +
      signOf (last.date.dayNumber - first.date.dayNumber) * dayNanos
  else last.time.nanoOfDay - first.time.nanoOfDay

/-- The fields of a difference, whether or not a duration can hold them. -/
def DateTime.fieldsUntil (first last : DateTime) (largest : Grain) : Fields :=
  if largest.isCalendar then
    withClock (first.date.fieldsUntil (first.dateUntil last) largest) (first.clockUntil last)
  else Fields.balanced largest (last.toNanos - first.toNanos)

theorem DateTime.until?_eq_some_iff :
    first.until? last largest = some s ↔ s.fields = first.fieldsUntil last largest := by
  rw [fieldsUntil, until?]
  by_cases calendar : largest.isCalendar = true
  · rw [if_neg (by simp [calendar]), if_pos calendar]
    exact Duration.ofFields?_eq_some_iff
  · rw [if_pos (by simp [calendar]), if_neg calendar]
    exact Duration.balanced?_eq_some_iff

/-- Date and clock lead to the last datetime between them. -/
theorem DateTime.dateUntil_clockUntil (first last : DateTime) :
    (first.dateUntil last).dayNumber * dayNanos + first.time.nanoOfDay + first.clockUntil last =
      last.toNanos := by
  unfold dateUntil clockUntil
  split
  · simp only [Date.addDays, Date.dayNumber_ofDayNumber, toNanos, dayNanos]
    rcases signOf_cases (last.date.dayNumber - first.date.dayNumber)
      with ⟨_, sign⟩ | ⟨_, sign⟩ | ⟨_, sign⟩ <;>
      simp only [sign] <;> omega
  · simp only [toNanos]
    omega

/-- Date and clock are counted in one direction: that of the dates, or that of the times within one
day. -/
theorem DateTime.exists_sign (first last : DateTime) :
    ∃ sign, (sign = -1 ∨ sign = 1) ∧
      0 ≤ sign * ((first.dateUntil last).dayNumber - first.date.dayNumber) ∧
      0 ≤ sign * first.clockUntil last := by
  have inDay := first.time.inDay
  have lastInDay := last.time.inDay
  have clocks := signOf_cases ((last.time.nanoOfDay : Int) - first.time.nanoOfDay)
  have dates := signOf_cases (last.date.dayNumber - first.date.dayNumber)
  by_cases opposed : first.Opposed last
  · rw [dateUntil, clockUntil, if_pos opposed, if_pos opposed, Date.addDays,
      Date.dayNumber_ofDayNumber]
    unfold Opposed at opposed
    rcases dates with ⟨_, sign⟩ | ⟨_, sign⟩ | ⟨_, sign⟩ <;> rw [sign] at opposed ⊢
    · exact ⟨-1, Or.inl rfl, by omega, by omega⟩
    · exact absurd rfl opposed.1
    · exact ⟨1, Or.inr rfl, by omega, by omega⟩
  · rw [dateUntil, clockUntil, if_neg opposed, if_neg opposed]
    unfold Opposed at opposed
    rcases dates with ⟨_, sign⟩ | ⟨_, sign⟩ | ⟨_, sign⟩ <;> rw [sign] at opposed
    · exact ⟨-1, Or.inl rfl, by omega, by omega⟩
    · rcases Int.le_total 0 ((last.time.nanoOfDay : Int) - first.time.nanoOfDay)
        with later | earlier
      · exact ⟨1, Or.inr rfl, by omega, by omega⟩
      · exact ⟨-1, Or.inl rfl, by omega, by omega⟩
    · exact ⟨1, Or.inr rfl, by omega, by omega⟩

/-- Fields whose dates and clock have a common sign have that sign. -/
theorem oneSigned_withClock {sign clock : Int} {dates : Int × Int × Int × Int}
    (signed : sign = -1 ∨ sign = 1) (along : Along sign dates) (ticking : 0 ≤ sign * clock) :
    (withClock dates clock).OneSigned := by
  rcases along with ⟨years, months, weeks, days⟩
  rcases signed with rfl | rfl
  · right
    intro grain
    have clockNonpos := Fields.get_balanced_nonpos .hour (show clock ≤ 0 by omega) grain
    cases grain <;> first | exact clockNonpos | (simp only [withClock, Fields.get]; omega)
  · left
    intro grain
    have clockNonneg := Fields.get_balanced_nonneg .hour (show 0 ≤ clock by omega) grain
    cases grain <;> first | exact clockNonneg | (simp only [withClock, Fields.get]; omega)

/-- The fields of a difference have one sign. -/
theorem DateTime.oneSigned_fieldsUntil (first last : DateTime) (largest : Grain) :
    (first.fieldsUntil last largest).OneSigned := by
  unfold fieldsUntil
  split
  · rcases first.exists_sign last with ⟨sign, signed, dates, ticking⟩
    exact oneSigned_withClock signed (fieldsUntil_along signed dates largest) ticking
  · exact Fields.oneSigned_balanced largest _

/-- The fields of a difference are those of a duration as soon as its limits admit them. -/
theorem DateTime.exists_fields_iff :
    (∃ s : Duration, s.fields = first.fieldsUntil last largest) ↔
      (first.fieldsUntil last largest).Bounded := by
  constructor
  · rintro ⟨s, made⟩
    exact made ▸ s.bounded
  · intro bounded
    exact ⟨⟨_, oneSigned_fieldsUntil first last largest, bounded⟩, rfl⟩

/-- A difference uses no grain coarser than the one it is asked in. -/
theorem DateTime.get_fieldsUntil_of_coarser {grain : Grain} (coarser : largest.rank < grain.rank) :
    (first.fieldsUntil last largest).get grain = 0 := by
  unfold fieldsUntil
  split
  · next calendar =>
    cases largest with
    | year | month | week => cases grain <;> first | rfl | exact absurd coarser (by decide)
    | day | hour | minute | second | millisecond | microsecond | nanosecond =>
        exact absurd calendar (by decide)
  · exact Fields.get_balanced_eq_zero (Or.inr coarser) _

/-- Adding the difference of two local datetimes to the first gives the last. -/
theorem DateTime.add_until? (found : first.until? last largest = some s) : first.add s = last := by
  rw [until?_eq_some_iff, fieldsUntil] at found
  rw [← toNanos_inj]
  split at found
  · next calendar =>
    have dates := fieldsUntil_leadsTo first.date (first.dateUntil last) calendar
    unfold LeadsTo at dates
    rw [toNanos_add, clockLength_of_withClock found, ← dateUntil_clockUntil first last]
    simp only [Duration.get, found, withClock, Fields.get, dates]
  · have balanced := Duration.balanced?_eq_some_iff.mpr found
    rw [toNanos_add_of_plain first (Duration.not_hasCalendarFields_of_balanced? balanced),
      Duration.length_of_balanced? balanced]
    omega

end Civil

namespace Duration

/-- Both ends of a duration that is counted from a local datetime are within the limits of
instants. -/
def EndsWithin (d : Duration) (civil : DateTime) : Prop :=
  (∃ i : Instant, i.nanoseconds = civil.toNanos) ∧
    ∃ i : Instant, i.nanoseconds = (civil.add d).toNanos

/-- Without calendar grains the difference that a duration makes is its length. -/
theorem fieldsUntil_add_of_plain (fixed : ¬largest.isCalendar = true) (plain : ¬d.HasCalendarFields)
    (civil : DateTime) :
    civil.fieldsUntil (civil.add d) largest = Fields.balanced largest d.length := by
  rw [DateTime.fieldsUntil, if_neg fixed, DateTime.toNanos_add_of_plain civil plain]
  congr 1
  omega

/-- A duration counted anew is the difference that it makes to the datetime.  Where calendar grains
are used or asked for, both ends must be within the limits of instants. -/
theorem roundedFrom?_eq_some_iff :
    d.roundedFrom? largest civil = some s ↔
      (largest.isCalendar = true ∨ d.HasCalendarFields -> d.EndsWithin civil) ∧
        s.fields = civil.fieldsUntil (civil.add d) largest := by
  rw [roundedFrom?]
  split
  · next calendar =>
    rw [Grain.isCalendar_coarser_iff] at calendar
    have calendar : largest.isCalendar = true ∨ d.HasCalendarFields :=
      calendar.imp_right d.isCalendar_iff.mp
    simp only [calendar, true_implies, ← DateTime.until?_eq_some_iff, EndsWithin,
      ← Instant.ofNanoseconds?_eq_some_iff]
    split
    · next begun ended =>
      constructor
      · intro found
        exact ⟨⟨⟨_, begun⟩, _, ended⟩, found⟩
      · rintro ⟨_, found⟩
        exact found
    · next beyond =>
      constructor
      · intro impossible
        contradiction
      · rintro ⟨⟨⟨i, begun⟩, j, ended⟩, _⟩
        exact (beyond i j begun ended).elim
  · next fixed =>
    rw [Grain.isCalendar_coarser_iff, not_or] at fixed
    have plain : ¬d.HasCalendarFields := mt d.isCalendar_iff.mpr fixed.2
    rw [fieldsUntil_add_of_plain fixed.1 plain, balanced?_eq_some_iff]
    simp [fixed.1, plain]

/-- Counting anew from a local datetime keeps the end of the duration. -/
theorem add_roundedFrom? (rounded : d.roundedFrom? largest civil = some s) :
    civil.add s = civil.add d :=
  DateTime.add_until? (DateTime.until?_eq_some_iff.mpr (roundedFrom?_eq_some_iff.mp rounded).2)

/-- Counting anew uses no grain coarser than the given one. -/
theorem get_roundedFrom?_of_coarser {grain : Grain}
    (rounded : d.roundedFrom? largest civil = some s) (coarser : largest.rank < grain.rank) :
    s.get grain = 0 := by
  rw [get, (roundedFrom?_eq_some_iff.mp rounded).2]
  exact DateTime.get_fieldsUntil_of_coarser coarser

/-- Without calendar grains counting anew keeps the length. -/
theorem length_of_roundedFrom? (fixed : ¬largest.isCalendar = true) (plain : ¬d.HasCalendarFields)
    (rounded : d.roundedFrom? largest civil = some s) : s.length = d.length := by
  rw [length, (roundedFrom?_eq_some_iff.mp rounded).2, fieldsUntil_add_of_plain fixed plain,
    Fields.length_balanced]

/-- Only limits stand in the way of counting anew: those of instants at the two ends, and those of
the fields. -/
theorem exists_roundedFrom?_iff :
    (∃ s, d.roundedFrom? largest civil = some s) ↔
      (largest.isCalendar = true ∨ d.HasCalendarFields -> d.EndsWithin civil) ∧
        (civil.fieldsUntil (civil.add d) largest).Bounded := by
  simp only [roundedFrom?_eq_some_iff, exists_and_left, DateTime.exists_fields_iff]

end Duration
end Chronometry
