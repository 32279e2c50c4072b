import Chronometry.Duration.Basic

/-!
# The coarsest grain of a duration

A duration is treated by its coarsest grain with a field that is not zero.  The questions that are
asked of this grain are questions about fields: a grain coarser than a given rank is present exactly
when one of the fields above that rank is not zero.  The two bounds in use are those of the days and
of the calendar grains.
-/

namespace Chronometry

namespace Grain

/-- The list of grains starts with the coarsest. -/
theorem all_descending : all.Pairwise fun g h => h.rank < g.rank := by
  decide

/-- In a descending list the first grain with a property is the coarsest one that has it. -/
theorem lt_rank_find? {grains : List Grain}
    (descending : grains.Pairwise fun g h => h.rank < g.rank) (p : Grain -> Bool) (rank : Nat) :
    rank < ((grains.find? p).getD .nanosecond).rank ↔
      ∃ grain ∈ grains, rank < grain.rank ∧ p grain = true := by
  induction grains with
  | nil => simp [Grain.rank]
  | cons first rest inductionHypothesis =>
      have below := (List.pairwise_cons.mp descending).1
      have later := inductionHypothesis (List.pairwise_cons.mp descending).2
      cases found : p first with
      | false => simp [found, later]
      | true =>
          simp only [List.find?_cons, found, Option.getD_some]
          constructor
          · intro above
            exact ⟨first, List.mem_cons_self, above, found⟩
          · rintro ⟨grain, listed, above, _⟩
            rcases List.mem_cons.mp listed with rfl | listed
            · exact above
            · exact Nat.lt_trans above (below grain listed)

/-- A property of some grain is a property of one of the ten. -/
theorem exists_iff (p : Grain -> Prop) :
    (∃ grain, p grain) ↔
      p .year ∨ p .month ∨ p .week ∨ p .day ∨ p .hour ∨ p .minute ∨ p .second ∨ p .millisecond ∨
      p .microsecond ∨ p .nanosecond := by
  have listed : (∃ grain, p grain) ↔ ∃ grain ∈ all, p grain := by
    simp only [mem_all, true_and]
  rw [listed]
  simp [all, or_and_right, exists_or]

end Grain

namespace Duration

/-- A duration reaches above a rank exactly when it has a field there. -/
theorem lt_rank_coarsest_iff (d : Duration) (rank : Nat) :
    rank < d.coarsest.rank ↔ ∃ grain, rank < grain.rank ∧ d.get grain ≠ 0 := by
  simp only [coarsest, Grain.lt_rank_find? Grain.all_descending, Grain.mem_all, true_and,
    decide_eq_true_eq]

/-- A field of years, months or weeks that is not zero. -/
def HasCalendarFields (d : Duration) : Prop :=
  d.get .year ≠ 0 ∨ d.get .month ≠ 0 ∨ d.get .week ≠ 0

/-- A field of days or coarser that is not zero. -/
def HasDayFields (d : Duration) : Prop :=
  d.get .year ≠ 0 ∨ d.get .month ≠ 0 ∨ d.get .week ≠ 0 ∨ d.get .day ≠ 0

instance (d : Duration) : Decidable d.HasCalendarFields :=
  inferInstanceAs (Decidable (_ ∨ _))

instance (d : Duration) : Decidable d.HasDayFields :=
  inferInstanceAs (Decidable (_ ∨ _))

theorem isCalendar_iff (d : Duration) : d.isCalendar = true ↔ d.HasCalendarFields := by
  rw [isCalendar, Grain.isCalendar, decide_eq_true_iff, lt_rank_coarsest_iff, Grain.exists_iff]
  simp [Grain.rank, HasCalendarFields]

theorem hasDays_iff (d : Duration) : d.hasDays = true ↔ d.HasDayFields := by
  rw [hasDays, decide_eq_true_iff]
  change Grain.hour.rank < d.coarsest.rank ↔ _
  rw [lt_rank_coarsest_iff, Grain.exists_iff]
  simp [Grain.rank, HasDayFields]

end Duration
end Chronometry
