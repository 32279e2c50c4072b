import Chronometry.Proofs.Instant.Translation

/-!
# The difference of two instants

The difference is counted in seconds and finer grains.  It always exists: the two limits of instants
lie so close to the limit of the seconds field that this is a matter of numbers and not of
principle.  It is the inverse of translation, and the only one up to the choice of fields.
-/

namespace Chronometry

open Error Registry

namespace Instant

/-- The whole range of instants fits into the seconds of one duration. -/
theorem exists_since? (a b : Instant) : ∃ e, a.since? b = some e := by
  have secondsWithin : ((a.nanoseconds - b.nanoseconds).tdiv Grain.second.size).natAbs ≤
      Grain.second.limit := by
    have := a.lower_le
    have := a.le_upper
    have := b.lower_le
    have := b.le_upper
    rw [Int.natAbs_tdiv]
    change (a.nanoseconds - b.nanoseconds).natAbs / 1000000000 ≤ 631107417600
    omega
  exact (Duration.exists_balanced?_iff rfl _).mpr secondsWithin

variable {a b : Instant} {e : Duration}

theorem length_of_since? (found : a.since? b = some e) : e.length = a.nanoseconds - b.nanoseconds :=
  Duration.length_of_balanced? found

theorem not_hasDayFields_of_since? (found : a.since? b = some e) : ¬e.HasDayFields :=
  Duration.not_hasDayFields_of_balanced? (by decide) found

theorem not_hasCalendarFields_of_since? (found : a.since? b = some e) : ¬e.HasCalendarFields :=
  Duration.not_hasCalendarFields_of_not_hasDayFields (not_hasDayFields_of_since? found)

theorem get_since?_eq_zero (found : a.since? b = some e) (grain : Grain)
    (coarse : Grain.second.rank < grain.rank) :
    e.get grain = 0 := by
  rw [Duration.get_of_balanced? found, Fields.get_balanced_eq_zero (Or.inr coarse)]

theorem get_since?_nonneg (found : a.since? b = some e) (later : b.nanoseconds ≤ a.nanoseconds)
    (grain : Grain) :
    0 ≤ e.get grain := by
  rw [Duration.get_of_balanced? found]
  exact Fields.get_balanced_nonneg .second (Int.sub_nonneg_of_le later) grain

theorem get_since?_nonpos (found : a.since? b = some e) (earlier : a.nanoseconds ≤ b.nanoseconds)
    (grain : Grain) :
    e.get grain ≤ 0 := by
  rw [Duration.get_of_balanced? found]
  exact Fields.get_balanced_nonpos .second (Int.sub_nonpos_of_le earlier) grain

/-- Below the second every grain is divided into a thousand of the next. -/
theorem natAbs_get_since?_lt (found : a.since? b = some e) (grain : Grain)
    (fine : grain.rank < Grain.second.rank) :
    (e.get grain).natAbs < 1000 := by
  have perNext : ∀ grain : Grain, grain.rank < Grain.second.rank -> grain.perNext = 1000 := by
    decide
  rw [Duration.get_of_balanced? found, ← perNext grain fine]
  exact Fields.natAbs_get_balanced_lt fine (Nat.lt_trans fine (by decide)) _

/-- Exchanging the instants negates every field. -/
theorem get_since?_swap {f : Duration} (found : a.since? b = some e) (swapped : b.since? a = some f)
    (grain : Grain) :
    f.get grain = -e.get grain := by
  have opposite : b.nanoseconds - a.nanoseconds = -(a.nanoseconds - b.nanoseconds) := by omega
  rw [Duration.get_of_balanced? found, Duration.get_of_balanced? swapped, opposite,
    Fields.get_balanced_neg]

end Instant

/-! ## The inverse of translation -/

theorem apply_subtract_of_since? {a b : Instant} {e : Duration} (found : a.since? b = some e) :
    standard.apply .subtract (.instant a) (.instant b) = .ok (.duration e) := by
  rw [apply_subtract_instants, found]
  rfl

variable {a b : Instant} {d e : Duration}

/-- The difference leads from the second instant to the first. -/
theorem add_of_since? (found : a.since? b = some e) : b.add? e = some a := by
  have length := Instant.length_of_since? found
  exact Instant.add?_eq_some_iff.mpr ⟨Instant.not_hasDayFields_of_since? found, by omega⟩

theorem sub_of_since? (found : a.since? b = some e) : a.sub? e = some b := by
  have length := Instant.length_of_since? found
  exact Instant.sub?_eq_some_iff.mpr ⟨Instant.not_hasDayFields_of_since? found, by omega⟩

theorem compares_of_since? (found : a.since? b = some e) :
    Compares (.instant a) (.instant b) e.sign := by
  have plain := Instant.not_hasCalendarFields_of_since? found
  rw [compares_instants_iff, Duration.sign_eq_sign_length plain, Instant.length_of_since? found]

theorem isZero_of_since?_iff (found : a.since? b = some e) : e.isZero = true ↔ a = b := by
  have plain := Instant.not_hasCalendarFields_of_since? found
  rw [Duration.isZero_iff plain, Instant.length_of_since? found, Instant.eq_iff]
  omega

/-- Every duration that leads from the second instant to the first has the length of the
difference. -/
theorem same_of_since?_of_add (found : a.since? b = some e)
    (moved : standard.apply .add (.instant b) (.duration d) = .ok (.instant a)) :
    (Value.duration e).same (.duration d) = true := by
  rcases apply_add_eq_ok_iff.mp moved with ⟨reached, ⟨short, count⟩, same⟩
  cases Value.instant.inj same
  have plain := Instant.not_hasCalendarFields_of_since? found
  have plainToo := Duration.not_hasCalendarFields_of_not_hasDayFields short
  rw [Value.same, Duration.sameLength_iff plain plainToo, Instant.length_of_since? found, count]
  omega

/-- The difference of two instants always exists, in seconds and finer fields of its own sign, and
it inverts translation: it leads from the second instant to the first, and every duration that does
so has its length. -/
theorem difference_inverts_translation (a b : Instant) :
    ∃ e : Duration,
      standard.apply .subtract (.instant a) (.instant b) = .ok (.duration e) ∧
      (∀ grain : Grain, Grain.second.rank < grain.rank -> e.get grain = 0) ∧
      (b.nanoseconds ≤ a.nanoseconds -> ∀ grain, 0 ≤ e.get grain) ∧
      (a.nanoseconds ≤ b.nanoseconds -> ∀ grain, e.get grain ≤ 0) ∧
      (∀ grain : Grain, grain.rank < Grain.second.rank -> (e.get grain).natAbs < 1000) ∧
      e.length = a.nanoseconds - b.nanoseconds ∧
      Compares (.instant a) (.instant b) e.sign ∧
      (e.isZero = true ↔ a = b) ∧
      standard.apply .add (.instant b) (.duration e) = .ok (.instant a) ∧
      standard.apply .add (.duration e) (.instant b) = .ok (.instant a) ∧
      standard.apply .subtract (.instant a) (.duration e) = .ok (.instant b) ∧
      (∃ f : Duration, standard.apply .subtract (.instant b) (.instant a) = .ok (.duration f) ∧
        ∀ grain, f.get grain = -e.get grain) ∧
      ∀ d : Duration, standard.apply .add (.instant b) (.duration d) = .ok (.instant a) ->
        (Value.duration e).same (.duration d) = true := by
  rcases Instant.exists_since? a b with ⟨e, found⟩
  rcases Instant.exists_since? b a with ⟨f, swapped⟩
  refine ⟨e, apply_subtract_of_since? found, Instant.get_since?_eq_zero found,
    Instant.get_since?_nonneg found, Instant.get_since?_nonpos found, Instant.natAbs_get_since?_lt
    found, Instant.length_of_since? found, compares_of_since? found, isZero_of_since?_iff found, ?_,
    ?_, ?_, ⟨f, apply_subtract_of_since? swapped, Instant.get_since?_swap found swapped⟩, ?_⟩
  · rw [apply_add_instant_duration, add_of_since? found]
    rfl
  · rw [apply_add_duration_instant, add_of_since? found]
    rfl
  · rw [apply_subtract_instant_duration, sub_of_since? found]
    rfl
  · intro d moved
    exact same_of_since?_of_add found moved

/-- The limits themselves are 631107230401 seconds and a little apart, within 0.00003 percent of
what a duration can hold. -/
example : standard.apply .subtract (.instant .last) (.instant .first) =
    .ok (.duration ⟨⟨0, 0, 0, 0, 0, 0, 631107230401, 999, 999, 999⟩, by decide, by decide⟩) := by
  rfl

end Chronometry
