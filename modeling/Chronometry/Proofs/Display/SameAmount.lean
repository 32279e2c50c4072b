import Chronometry.Display
import Chronometry.Proofs.Duration.CivilDifference
import Chronometry.Proofs.Text.WrittenDigits

/-!
# Displayed durations

What is displayed of a duration is the text of another one, with fields that suit the settings and
with the same end when both are counted from the current local datetime.  The text tells two things
at a glance: it is that of no time at all exactly when every field is zero, and it has a minus
exactly when the fields are negative.  For this the number that the text begins with must not begin
with a zero itself.
-/

namespace Chronometry

namespace Text

/-- A count that is not zero is written without a zero in front.  By induction on the count, a digit
at a time. -/
theorem exists_head?_toDigits {n : Nat} (positive : 0 < n) :
    ∃ digit, (Nat.toDigits 10 n).head? = some digit ∧ digit.isDigit = true ∧ digit ≠ '0' := by
  induction n using Nat.strongRecOn with
  | ind n inductionHypothesis =>
      rcases Nat.lt_or_ge n 10 with small | large
      · rw [Nat.toDigits_of_lt_base small]
        refine ⟨n.digitChar, rfl, by simpa [Nat.isDigit_digitChar] using small, ?_⟩
        intro zero
        have code := Nat.toNat_digitChar_of_lt_ten small
        rw [zero] at code
        simp at code
        omega
      · rcases inductionHypothesis (n / 10) (by omega) (by omega)
          with ⟨digit, first, isDigit, nonzero⟩
        rw [Nat.toDigits_of_base_le (by decide) large, List.head?_append, first]
        exact ⟨digit, rfl, isDigit, nonzero⟩

end Text

theorem Duration.sign_neg_iff {s : Duration} : s.sign < 0 ↔ ∃ grain, s.get grain < 0 := by
  unfold Duration.sign
  constructor
  · intro negative
    split at negative
    · contradiction
    · split at negative
      · contradiction
      · next mixed => simpa only [Classical.not_forall, Int.not_le] using mixed
  · rintro ⟨grain, negative⟩
    have nonzero : ¬∀ grain, s.get grain = 0 := fun zero => absurd (zero grain) (by omega)
    have mixed : ¬∀ grain, 0 ≤ s.get grain := fun nonneg => absurd (nonneg grain) (by omega)
    rw [if_neg nonzero, if_neg mixed]
    decide

namespace Display

variable {s : Duration}

theorem fieldTexts_eq_nil_iff : fieldTexts s = [] ↔ ∀ grain, s.get grain = 0 := by
  simp [fieldTexts, Grain.mem_all]

theorem duration_of_zero (zero : ∀ grain, s.get grain = 0) : duration s = "0 sec" := by
  simp [duration, fieldTexts_eq_nil_iff.mpr zero]

/-- Behind the sign, the text of a duration that is not zero begins with the count of its coarsest
field. -/
theorem exists_duration_eq (present : ¬∀ grain, s.get grain = 0) :
    ∃ n rest, 0 < n ∧ duration s = (if s.sign < 0 then "-" else "") ++ (toString n ++ rest) := by
  have nonempty := mt fieldTexts_eq_nil_iff.mp present
  have unfolded : duration s =
      (if s.sign < 0 then "-" else "") ++ ", ".intercalate (fieldTexts s) := by
    simp [duration, nonempty]
  unfold fieldTexts at nonempty unfolded
  cases fields : Grain.all.filter (fun grain => decide (s.get grain ≠ 0)) with
  | nil => exact absurd (congrArg (List.map _) fields) nonempty
  | cons coarsest others =>
      have listed : coarsest ∈ Grain.all.filter (fun grain => decide (s.get grain ≠ 0)) :=
        fields ▸ List.mem_cons_self
      have nonzero : s.get coarsest ≠ 0 := of_decide_eq_true (List.mem_filter.mp listed).2
      rw [fields, List.map_cons, labelled, String.append_assoc, String.intercalate_cons_append]
        at unfolded
      exact ⟨_, _, Int.natAbs_pos.mpr nonzero, unfolded⟩

/-- The first character of a displayed duration. -/
theorem exists_head?_duration (present : ¬∀ grain, s.get grain = 0) :
    ∃ digit : Char, digit.isDigit = true ∧ digit ≠ '0' ∧
      (duration s).toList.head? = some (if s.sign < 0 then '-' else digit) := by
  rcases exists_duration_eq present with ⟨n, rest, positive, written⟩
  rcases Text.exists_head?_toDigits positive with ⟨digit, first, isDigit, nonzero⟩
  refine ⟨digit, isDigit, nonzero, ?_⟩
  rw [written, Nat.toString_eq_ofList_toDigits]
  split
  · simp
  · simp [first]

theorem duration_eq_zero_iff : duration s = "0 sec" ↔ ∀ grain, s.get grain = 0 := by
  refine ⟨fun zero => Decidable.byContradiction fun present => ?_, duration_of_zero⟩
  rcases exists_head?_duration present with ⟨digit, _, nonzero, first⟩
  rw [zero] at first
  have same : '0' = if s.sign < 0 then '-' else digit := Option.some.inj first
  split at same
  · contradiction
  · exact nonzero same.symm

theorem duration_begins_minus_iff :
    (duration s).toList.head? = some '-' ↔ ∃ grain, s.get grain < 0 := by
  rw [← Duration.sign_neg_iff]
  by_cases zero : ∀ grain, s.get grain = 0
  · simp [duration_of_zero zero, Duration.sign, zero]
  · rcases exists_head?_duration zero with ⟨digit, isDigit, _, first⟩
    rw [first]
    split
    · simp [*]
    · have other : digit ≠ '-' := Text.ne_of_isDigit isDigit '-' rfl
      simp [*]

/-- A duration counted anew in grains that suit the settings: from the current local datetime it
leads to the same end.  Local datetimes are not bounded here, so that the two ends are also within
the calendar together or beyond it together.  Without calendar grains the duration is as long as it
was. -/
structure Recounts (settings : Settings) (now : Instant) (d s : Duration) : Prop where
  oneSigned : s.fields.OneSigned
  unused : ∀ grain, settings.largest.rank < grain.rank -> s.get grain = 0
  sameEnd : (settings.zone.civilOf now).add s = (settings.zone.civilOf now).add d
  sameLength : settings.largest.isCalendar = false -> ¬d.HasCalendarFields -> s.length = d.length

variable {d : Duration} {settings : Settings} {now : Instant}

theorem recounts_of_roundedFrom?
    (rounded : d.roundedFrom? settings.largest (settings.zone.civilOf now) = some s) :
    Recounts settings now d s where
  oneSigned := s.oneSigned
  unused _ := Duration.get_roundedFrom?_of_coarser rounded
  sameEnd := Duration.add_roundedFrom? rounded
  sameLength fixed plain :=
    Duration.length_of_roundedFrom? (Bool.eq_false_iff.mp fixed) plain rounded

/-- A duration is displayed unless a limit is in the way: that of instants, which holds for both
ends where calendar grains are used, or that of a field.  The fields that are counted anew never
fail to have one sign. -/
theorem exists_durationFrom_iff :
    (∃ text, durationFrom d settings now = .ok text) ↔
      (settings.largest.isCalendar = true ∨ d.HasCalendarFields ->
        d.EndsWithin (settings.zone.civilOf now)) ∧
        ((settings.zone.civilOf now).fieldsUntil ((settings.zone.civilOf now).add d)
          settings.largest).Bounded := by
  rw [← Duration.exists_roundedFrom?_iff]
  simp only [durationFrom, Error.withinLimits_eq_ok_iff, Option.map_eq_some_iff]
  constructor
  · rintro ⟨_, s, rounded, _⟩
    exact ⟨s, rounded⟩
  · rintro ⟨s, rounded⟩
    exact ⟨_, s, rounded, rfl⟩

/-- A displayed duration denotes the same amount as the duration itself, in the zone and the grains
of the settings.  The text says whether the amount is zero, and whether it is negative.  Nothing but
the limits keeps a duration from being displayed. -/
theorem displayed_duration_is_same_amount (d : Duration) (settings : Settings) (now : Instant) :
    ((∃ text, durationFrom d settings now = .ok text) ↔
      (settings.largest.isCalendar = true ∨ d.HasCalendarFields ->
        d.EndsWithin (settings.zone.civilOf now)) ∧
        ((settings.zone.civilOf now).fieldsUntil ((settings.zone.civilOf now).add d)
          settings.largest).Bounded) ∧
    ∀ text, durationFrom d settings now = .ok text ->
      ∃ s, Recounts settings now d s ∧ text = duration s ∧
        (text = "0 sec" ↔ ∀ grain, s.get grain = 0) ∧
        (text.toList.head? = some '-' ↔ ∃ grain, s.get grain < 0) := by
  refine ⟨exists_durationFrom_iff, fun text displayed => ?_⟩
  rcases Option.map_eq_some_iff.mp (Error.withinLimits_eq_ok_iff.mp displayed)
    with ⟨s, rounded, rfl⟩
  exact ⟨s, recounts_of_roundedFrom? rounded, rfl, duration_eq_zero_iff,
    duration_begins_minus_iff⟩

/-- From the evening of the last day of January, 725 hours lead over a short month and past
midnight: to the day after the one that a whole month leads to, and five hours on. -/
theorem short_month_is_same_amount :
    ∃ s,
      Recounts { Settings.utc with largest := .month } ⟨1706731200000000000, by decide, by decide⟩
        ⟨.balanced .hour 2610000000000000, by decide, by decide⟩ s ∧
      "1 mth, 1 day, 5 hr" = duration s := by
  have displayed : durationFrom ⟨.balanced .hour 2610000000000000, by decide, by decide⟩
      { Settings.utc with largest := .month } ⟨1706731200000000000, by decide, by decide⟩ =
        .ok "1 mth, 1 day, 5 hr" := by
    rw [durationFrom]
    exact Error.withinLimits_eq_ok_iff.mpr (by decide +kernel)
  rcases (displayed_duration_is_same_amount _ _ _).2 _ displayed with ⟨s, recounts, written, _⟩
  exact ⟨s, recounts, written⟩

end Display
end Chronometry
