import Chronometry.Proofs.Duration.Sum
import Chronometry.Proofs.Order.Comparison

/-!
# The order of instants and of durations

Instants are totally ordered by their counts.  Durations without calendar fields are ordered by
their lengths, which is a total preorder only: ninety minutes and an hour and a half are different
fields of one length.  Both orders are instances of one situation, in which the answer of the
comparison is the sign of a difference of counts.  A duration with calendar fields has no place in
the order, on either side.

The order agrees with subtraction, and the sign of a duration is its place relative to zero.
-/

namespace Chronometry

open Error Registry

/-- The laws of a preorder for the comparison of values that stand for the members of a type.  A
pair that does not compare is left alone by them. -/
structure PreorderedBy {α : Type} (value : α -> Value) : Prop where
  antisymmetric : ∀ (x y : α) (sign : Int),
    Compares (value x) (value y) sign -> Compares (value y) (value x) (-sign)
  transitive : ∀ (x y z : α) (s t : Int),
    Compares (value x) (value y) s -> Compares (value y) (value z) t ->
    s ≤ 0 -> t ≤ 0 -> ∃ u, Compares (value x) (value z) u ∧ u ≤ 0 ∧ (u = 0 -> s = 0 ∧ t = 0)

/-- A comparison that answers with the sign of a difference of counts is a preorder. -/
theorem PreorderedBy.of_counts {α : Type} {value : α -> Value} {comparable : α -> Prop}
    {count : α -> Int}
    (answers : ∀ (x y : α) (sign : Int), Compares (value x) (value y) sign ↔
      comparable x ∧ comparable y ∧ sign = (count x - count y).sign) :
    PreorderedBy value where
  antisymmetric := by
    intro x y sign compared
    rcases (answers x y sign).mp compared with ⟨left, right, rfl⟩
    refine (answers y x _).mpr ⟨right, left, ?_⟩
    rw [← Int.sign_neg, Int.neg_sub]
  transitive := by
    intro x y z s t first second sNonpos tNonpos
    rcases (answers x y s).mp first with ⟨left, _, rfl⟩
    rcases (answers y z t).mp second with ⟨_, right, rfl⟩
    rw [Int.sign_nonpos_iff] at sNonpos tNonpos
    refine ⟨(count x - count z).sign, (answers x z _).mpr ⟨left, right, rfl⟩, ?_, ?_⟩
    · rw [Int.sign_nonpos_iff]
      omega
    · simp only [Int.sign_eq_zero_iff_zero]
      omega

theorem preorderedBy_instant : PreorderedBy Value.instant := by
  have answers (a b : Instant) (sign : Int) :
      Compares (.instant a) (.instant b) sign ↔
        True ∧ True ∧ sign = (a.nanoseconds - b.nanoseconds).sign := by
    rw [compares_instants_iff, true_and, true_and]
  exact .of_counts answers

theorem preorderedBy_duration : PreorderedBy Value.duration :=
  .of_counts compares_durations_iff

/-! ## Instants -/

theorem exists_compares_instants (a b : Instant) :
    ∃ sign, Compares (.instant a) (.instant b) sign :=
  ⟨_, (compares_instants_iff a b _).mpr rfl⟩

/-- Only an instant itself compares as equal to it. -/
theorem compares_instants_zero_iff (a b : Instant) :
    Compares (.instant a) (.instant b) 0 ↔ a = b := by
  rw [compares_instants_iff, eq_comm, Int.sign_eq_zero_iff_zero, Instant.eq_iff]
  omega

/-! ## Durations -/

theorem apply_compare_eq_error_iff (x y : Duration) (error : Error) :
    standard.apply .compare (.duration x) (.duration y) = .error error ↔
      error = .outOfRange (.limits (.comparison x y)) ∧
        (x.HasCalendarFields ∨ y.HasCalendarFields) := by
  by_cases calendar : x.HasCalendarFields ∨ y.HasCalendarFields
  · rw [apply_compare_of_calendar calendar, Except.error.injEq, and_iff_left calendar, eq_comm]
  · rcases not_or.mp calendar with ⟨left, right⟩
    rw [apply_compare_of_plain left right]
    simp only [reduceCtorEq, calendar, and_false]

theorem apply_compare_fails_comm (x y : Duration) :
    (∃ error, standard.apply .compare (.duration x) (.duration y) = .error error) ↔
      ∃ error, standard.apply .compare (.duration y) (.duration x) = .error error := by
  simp only [apply_compare_eq_error_iff, exists_eq_left, or_comm]

/-- The difference of two durations has the sign of their comparison. -/
theorem compares_of_subtract {x y z : Duration}
    (difference : standard.apply .subtract (.duration x) (.duration y) = .ok (.duration z)) :
    Compares (.duration x) (.duration y) z.sign := by
  rw [apply_subtract_durations, withinLimits_eq_ok_iff, Option.map_eq_map, Option.map_eq_some_iff]
    at difference
  rcases difference with ⟨found, combined, same⟩
  cases Value.duration.inj same
  have plain := Duration.combine?_eq_some_iff.mp combined
  rw [compares_durations_iff,
    Duration.sign_eq_sign_length (Duration.not_hasCalendarFields_of_combine? combined),
    Duration.length_of_combine? combined]
  exact ⟨plain.1, plain.2.1, rfl⟩

theorem Duration.not_hasCalendarFields_zero : ¬zero.HasCalendarFields := by
  decide

theorem compares_zero_iff {x : Duration} (plain : ¬x.HasCalendarFields) (sign : Int) :
    Compares (.duration x) (.duration .zero) sign ↔ sign = x.sign := by
  have fromZero : x.length - Duration.zero.length = x.length := Int.sub_zero _
  rw [compares_durations_iff, Duration.sign_eq_sign_length plain, fromZero]
  simp only [plain, Duration.not_hasCalendarFields_zero, not_false_eq_true, true_and]

/-- A duration is zero exactly when it compares as equal to zero. -/
theorem isZero_iff_compares_zero {x : Duration} (plain : ¬x.HasCalendarFields) :
    x.isZero = true ↔ Compares (.duration x) (.duration .zero) 0 := by
  rw [compares_zero_iff plain, Duration.isZero_iff plain, Duration.sign_eq_sign_length plain,
    ← Int.sign_eq_zero_iff_zero]
  exact eq_comm

/-- The standard comparison orders instants totally and durations without calendar fields up to
their breakdown into fields.  It refuses every other duration, and it agrees with subtraction and
with the sign of a duration. -/
theorem compare_orders_times :
    PreorderedBy Value.instant ∧
    (∀ a b : Instant, (∃ sign, Compares (.instant a) (.instant b) sign) ∧
      (Compares (.instant a) (.instant b) 0 ↔ a = b)) ∧
    PreorderedBy Value.duration ∧
    (∀ (x y : Duration) (error : Error),
      standard.apply .compare (.duration x) (.duration y) = .error error ↔
        error = .outOfRange (.limits (.comparison x y)) ∧
          (x.HasCalendarFields ∨ y.HasCalendarFields)) ∧
    (∀ x y : Duration,
      (∃ error, standard.apply .compare (.duration x) (.duration y) = .error error) ↔
        ∃ error, standard.apply .compare (.duration y) (.duration x) = .error error) ∧
    (∀ (x y : Duration) (sign : Int), Compares (.duration x) (.duration y) sign ↔
      ¬x.HasCalendarFields ∧ ¬y.HasCalendarFields ∧ sign = (x.length - y.length).sign) ∧
    (∀ x : Duration, ¬x.HasCalendarFields -> Compares (.duration x) (.duration x) 0) ∧
    (∀ x y z : Duration, standard.apply .subtract (.duration x) (.duration y) = .ok (.duration z) ->
      Compares (.duration x) (.duration y) z.sign) ∧
    (∀ x : Duration, ¬x.HasCalendarFields ->
      Compares (.duration x) (.duration .zero) x.sign ∧
        (x.isZero = true ↔ Compares (.duration x) (.duration .zero) 0)) := by
  refine ⟨preorderedBy_instant, ?_, preorderedBy_duration, apply_compare_eq_error_iff,
    apply_compare_fails_comm, compares_durations_iff, ?_, ?_, ?_⟩
  · intro a b
    exact ⟨exists_compares_instants a b, compares_instants_zero_iff a b⟩
  · intro x plain
    exact (compares_durations_iff x x 0).mpr ⟨plain, plain, by rw [Int.sub_self, Int.sign_zero]⟩
  · intro x y z difference
    exact compares_of_subtract difference
  · intro x plain
    exact ⟨(compares_zero_iff plain _).mpr rfl, isZero_iff_compares_zero plain⟩

def ninetyMinutes : Duration := ⟨⟨0, 0, 0, 0, 0, 90, 0, 0, 0, 0⟩, by decide, by decide⟩

def hourAndHalf : Duration := ⟨⟨0, 0, 0, 0, 1, 30, 0, 0, 0, 0⟩, by decide, by decide⟩

def oneWeek : Duration := ⟨⟨0, 0, 1, 0, 0, 0, 0, 0, 0, 0⟩, by decide, by decide⟩

/-- Ninety minutes are an hour and a half in other fields.  A week has no place among them. -/
theorem compare_orders_breakdowns :
    Compares (.duration ninetyMinutes) (.duration hourAndHalf) 0 ∧
      standard.apply .compare (.duration ninetyMinutes) (.duration oneWeek) =
        .error (.outOfRange (.limits (.comparison ninetyMinutes oneWeek))) := by
  rcases compare_orders_times with ⟨_, _, _, refuses, _, compares, _⟩
  constructor
  · exact (compares ninetyMinutes hourAndHalf 0).mpr ⟨by decide, by decide, rfl⟩
  · exact (refuses ninetyMinutes oneWeek _).mpr ⟨rfl, by decide⟩

end Chronometry
