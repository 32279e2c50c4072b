import Chronometry.Proofs.Duration.Balance
import Chronometry.Proofs.Duration.Coarsest

/-!
# Sums and differences of durations

A sum is the combined length, put anew into fields from the coarser of the two coarsest grains
downward.  It loses no nanosecond, and it never reaches a grain that neither operand reaches:
durations without days have a sum without days.
-/

namespace Chronometry

theorem Grain.rank_coarser (g h : Grain) : (g.coarser h).rank = max g.rank h.rank := by
  unfold Grain.coarser
  split <;> omega

/-- The coarser of two grains is a calendar grain where one of the two is. -/
theorem Grain.isCalendar_coarser_iff (g h : Grain) :
    (g.coarser h).isCalendar = true ↔ g.isCalendar = true ∨ h.isCalendar = true := by
  simp only [Grain.isCalendar, decide_eq_true_iff, Grain.rank_coarser]
  omega

namespace Duration

/-- A grain above which a duration has no field is at least as coarse as its coarsest one. -/
theorem coarsest_rank_le {d : Duration} {rank : Nat}
    (absent : ∀ grain, rank < grain.rank -> d.get grain = 0) :
    d.coarsest.rank ≤ rank := by
  apply Nat.le_of_not_lt
  intro above
  rcases (d.lt_rank_coarsest_iff rank).mp above with ⟨grain, coarser, present⟩
  exact present (absent grain coarser)

theorem coarsest_balanced?_rank_le {top : Grain} {length : Int} {d : Duration}
    (found : balanced? top length = some d) : d.coarsest.rank ≤ top.rank :=
  coarsest_rank_le fun grain above => by
    rw [get_of_balanced? found, Fields.get_balanced_eq_zero (Or.inr above)]

theorem not_hasCalendarFields_of_balanced? {top : Grain} {length : Int} {d : Duration}
    (found : balanced? top length = some d) : ¬d.HasCalendarFields := by
  have zero (grain : Grain) (calendar : grain.isCalendar = true) : d.get grain = 0 := by
    rw [get_of_balanced? found, Fields.get_balanced_eq_zero (Or.inl calendar)]
  simp [HasCalendarFields, zero .year rfl, zero .month rfl, zero .week rfl]

theorem not_hasDayFields_of_balanced? {top : Grain} {length : Int} {d : Duration}
    (short : top.rank < Grain.day.rank) (found : balanced? top length = some d) :
    ¬d.HasDayFields := by
  rw [← hasDays_iff, hasDays, decide_eq_true_iff, Nat.not_le]
  exact Nat.lt_of_le_of_lt (coarsest_balanced?_rank_le found) short

/-- Lengths are combined exactly when neither duration has calendar fields and the limits admit the
outcome. -/
theorem combine?_eq_some_iff {x y s : Duration} {length : Int} :
    combine? x y length = some s ↔
      ¬x.HasCalendarFields ∧ ¬y.HasCalendarFields ∧
        balanced? (x.coarsest.coarser y.coarsest) length = some s := by
  by_cases calendar : (x.isCalendar || y.isCalendar) = true
  · rw [combine?, if_pos calendar]
    rw [Bool.or_eq_true, isCalendar_iff, isCalendar_iff] at calendar
    constructor
    · intro impossible
      contradiction
    · intro plain
      exact absurd calendar (not_or.mpr ⟨plain.1, plain.2.1⟩)
  · rw [combine?, if_neg calendar]
    rw [Bool.or_eq_true, isCalendar_iff, isCalendar_iff, not_or] at calendar
    simp only [calendar, not_false_eq_true, true_and]

theorem length_of_combine? {x y s : Duration} {length : Int}
    (found : combine? x y length = some s) :
    s.length = length :=
  length_of_balanced? (combine?_eq_some_iff.mp found).2.2

theorem not_hasCalendarFields_of_combine? {x y s : Duration} {length : Int}
    (found : combine? x y length = some s) : ¬s.HasCalendarFields :=
  not_hasCalendarFields_of_balanced? (combine?_eq_some_iff.mp found).2.2

/-- Combining lengths creates no days. -/
theorem not_hasDayFields_of_combine? {x y s : Duration} {length : Int} (left : ¬x.HasDayFields)
    (right : ¬y.HasDayFields) (found : combine? x y length = some s) : ¬s.HasDayFields := by
  rw [← hasDays_iff, hasDays, decide_eq_true_iff, Nat.not_le] at left right
  refine not_hasDayFields_of_balanced? ?_ (combine?_eq_some_iff.mp found).2.2
  rw [Grain.rank_coarser]
  exact Nat.max_lt.mpr ⟨left, right⟩

theorem not_hasCalendarFields_of_not_hasDayFields {d : Duration} (short : ¬d.HasDayFields) :
    ¬d.HasCalendarFields := by
  rintro (years | months | weeks)
  · exact short (Or.inl years)
  · exact short (Or.inr (Or.inl months))
  · exact short (Or.inr (Or.inr (Or.inl weeks)))

end Duration
end Chronometry
