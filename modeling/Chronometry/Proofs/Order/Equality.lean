import Chronometry.Proofs.Order.Relations
import Chronometry.Proofs.Order.Times

/-!
# Equality and the question of equality

There are two ways to ask whether two values are equal.  `Value.same` compares them directly and
answers in any case.  The relation `equal` is resolved by the kinds of its operands, goes by their
order, and fails where there is none.  The two agree on all pairs of values but those of quantities:
what has no order is not equal to anything, itself included.

Quantities are left out because the two ways differ on them by design.  The relation converts the
right magnitude into the unit on the left; the direct comparison asks for one unit and prefers exact
counts.
-/

namespace Chronometry

open Arithmetic Registry

theorem Binary64.order?_eq_none_iff (x y : Binary64) :
    x.order? y = none ↔ x = .nan ∨ y = .nan := by
  cases x <;> cases y <;> simp [order?, position?]

theorem Instant.order_eq_eq_iff (a b : Instant) : a.order b = .eq ↔ a = b := by
  rw [order, Int.compare_eq_eq, eq_iff]

/-- Durations are equal when both have a length and it is one length, in whatever fields. -/
theorem Value.same_duration_iff (x y : Duration) : (Value.duration x).same (.duration y) = true ↔
    ¬x.HasCalendarFields ∧ ¬y.HasCalendarFields ∧ x.length = y.length := by
  change x.sameLength y = true ↔ _
  by_cases calendar : x.HasCalendarFields ∨ y.HasCalendarFields
  · rw [Duration.sameLength, Duration.order?_of_calendar calendar]
    constructor
    · intro impossible
      contradiction
    · intro plain
      exact absurd calendar (not_or.mpr ⟨plain.1, plain.2.1⟩)
  · rcases not_or.mp calendar with ⟨left, right⟩
    rw [Duration.sameLength_iff left right]
    simp only [left, right, not_false_eq_true, true_and]

/-- A value that has a place in the order of its kind.  What is not a number has none, and neither
has a duration with calendar fields. -/
def Value.Placed : Value -> Prop
  | .number x => x ≠ .nan
  | .quantity q => q.value ≠ .nan
  | .duration d => ¬d.HasCalendarFields
  | .boolean _ | .instant _ => True

instance (value : Value) : Decidable value.Placed :=
  match value with
  | .number x => inferInstanceAs (Decidable (x ≠ .nan))
  | .quantity q => inferInstanceAs (Decidable (q.value ≠ .nan))
  | .duration d => inferInstanceAs (Decidable (¬d.HasCalendarFields))
  | .boolean _ | .instant _ => inferInstanceAs (Decidable True)

namespace Arithmetic

theorem orderNumbers_eq_ok_iff (x y : Binary64) (order : Ordering) :
    orderNumbers x y = .ok order ↔ x.order? y = some order := by
  unfold orderNumbers
  cases x.order? y <;> simp

variable {a b : Value}

/-- Apart from quantities, values are equal exactly when their order is found and is equality.
Truth values have no order and are asked for separately. -/
theorem same_iff_orderValues (notQuantities : ¬(a.kind = .quantity ∧ b.kind = .quantity))
    (notBooleans : ¬(a.kind = .boolean ∧ b.kind = .boolean)) :
    a.same b = true ↔ orderValues (.relation .equal) a b = .ok .eq := by
  cases a <;> cases b
  case number.number x y =>
    rw [orderValues, orderNumbers_eq_ok_iff]
    exact beq_iff_eq
  case boolean.boolean => exact absurd ⟨rfl, rfl⟩ notBooleans
  case quantity.quantity => exact absurd ⟨rfl, rfl⟩ notQuantities
  case instant.instant x y => simp [Value.same, orderValues, orderTimes, Instant.order_eq_eq_iff]
  case duration.duration x y =>
    change x.sameLength y = true ↔ Error.withinLimits (.comparison x y) (x.order? y) = .ok .eq
    rw [Error.withinLimits_eq_ok_iff]
    exact beq_iff_eq
  all_goals simp [Value.same, orderValues, orderTimes]

/-- The order of two values is found when they are of one kind and both have a place in it. -/
theorem exists_orderValues_iff (notQuantities : ¬(a.kind = .quantity ∧ b.kind = .quantity))
    (notBooleans : ¬(a.kind = .boolean ∧ b.kind = .boolean)) :
    (∃ order, orderValues (.relation .equal) a b = .ok order) ↔
      a.kind = b.kind ∧ a.Placed ∧ b.Placed := by
  cases a <;> cases b
  case number.number x y =>
    simp only [orderValues, orderNumbers_eq_ok_iff, ← Option.ne_none_iff_exists', ne_eq,
      Binary64.order?_eq_none_iff, not_or, Value.kind, Value.Placed, true_and]
  case boolean.boolean => exact absurd ⟨rfl, rfl⟩ notBooleans
  case quantity.quantity => exact absurd ⟨rfl, rfl⟩ notQuantities
  case instant.instant x y => simp [orderValues, orderTimes, Value.kind, Value.Placed]
  case duration.duration x y =>
    by_cases calendar : x.HasCalendarFields ∨ y.HasCalendarFields
    · simp only [orderValues, orderTimes, Duration.order?_of_calendar calendar, Value.kind,
        Value.Placed, true_and]
      simp [Error.withinLimits, ← not_or, calendar]
    · rcases not_or.mp calendar with ⟨left, right⟩
      simp [orderValues, orderTimes, Duration.order?_of_plain left right, Error.withinLimits,
        Value.kind, Value.Placed, left, right]
  all_goals simp [orderValues, orderTimes, Value.kind]

/-- Values are equal exactly when the relation says so. -/
theorem same_iff_apply_equal (notQuantities : ¬(a.kind = .quantity ∧ b.kind = .quantity)) :
    a.same b = true ↔ standard.apply (.relation .equal) a b = .ok (.boolean true) := by
  by_cases booleans : a.kind = .boolean ∧ b.kind = .boolean
  · cases a <;> cases b
    case boolean.boolean x y =>
      rw [apply_booleans, if_pos rfl, Except.ok.injEq, Value.boolean.injEq]
      exact Iff.rfl
    all_goals simp [Value.kind] at booleans
  · rw [same_iff_orderValues notQuantities booleans, apply_relation_eq .equal booleans]
    cases orderValues (.relation .equal) a b with
    | error error =>
        constructor <;>
          intro impossible <;>
            contradiction
    | ok order => cases order <;> simp [Relation.holds]

/-- The relation fails exactly where there is no order to go by. -/
theorem apply_equal_fails_iff (notQuantities : ¬(a.kind = .quantity ∧ b.kind = .quantity)) :
    (∃ error, standard.apply (.relation .equal) a b = .error error) ↔
      ¬(a.kind = b.kind ∧ a.Placed ∧ b.Placed) := by
  by_cases booleans : a.kind = .boolean ∧ b.kind = .boolean
  · cases a <;> cases b
    case boolean.boolean x y =>
      rw [apply_booleans, if_pos rfl]
      simp [Value.kind, Value.Placed]
    all_goals simp [Value.kind] at booleans
  · rw [← exists_orderValues_iff notQuantities booleans, apply_relation_eq .equal booleans]
    cases orderValues (.relation .equal) a b with
    | error error => simp
    | ok order => simp

end Arithmetic

/-- Equality of values agrees with the relation `equal` of the standard registry on all pairs but
those of quantities.  The relation fails exactly when the values are of different kinds or one of
them has no place in the order of its kind, and then they are not equal.  Among durations this makes
those with calendar fields different from all, themselves included, and the others equal to whatever
has their length, in any breakdown into fields. -/
theorem same_agrees_with_equal :
    (∀ a b : Value, ¬(a.kind = .quantity ∧ b.kind = .quantity) ->
      (a.same b = true ↔ standard.apply (.relation .equal) a b = .ok (.boolean true)) ∧
      ((∃ error, standard.apply (.relation .equal) a b = .error error) ↔
        a.kind ≠ b.kind ∨ ¬a.Placed ∨ ¬b.Placed) ∧
      (∀ error, standard.apply (.relation .equal) a b = .error error -> a.same b = false)) ∧
    (∀ x y : Duration, x.HasCalendarFields ->
      (Value.duration x).same (.duration y) = false ∧
        (Value.duration y).same (.duration x) = false) ∧
    (∀ x : Duration, ¬x.HasCalendarFields -> (Value.duration x).same (.duration x) = true) ∧
    (∀ x y : Duration, ¬x.HasCalendarFields -> ¬y.HasCalendarFields ->
      ((Value.duration x).same (.duration y) = true ↔ x.length = y.length)) ∧
    (∀ (x y : Duration) (top : Grain),
      ¬x.HasCalendarFields -> Duration.balanced? top x.length = some y ->
      (Value.duration x).same (.duration y) = true) := by
  refine ⟨?_, ?_, ?_, ?_, ?_⟩
  · intro a b notQuantities
    have agree := same_iff_apply_equal notQuantities
    refine ⟨agree, ?_, ?_⟩
    · rw [apply_equal_fails_iff notQuantities, Decidable.not_and_iff_not_or_not,
        Decidable.not_and_iff_not_or_not]
    · intro error failed
      rw [← Bool.not_eq_true, agree, failed]
      exact fun impossible => nomatch impossible
  · intro x y calendar
    rw [← Bool.not_eq_true, ← Bool.not_eq_true, Value.same_duration_iff,
      Value.same_duration_iff]
    exact ⟨fun same => same.1 calendar, fun same => same.2.1 calendar⟩
  · intro x plain
    exact (Value.same_duration_iff x x).mpr ⟨plain, plain, rfl⟩
  · intro x y left right
    rw [Value.same_duration_iff, and_iff_right left, and_iff_right right]
  · intro x y top plain found
    exact (Value.same_duration_iff x y).mpr ⟨plain,
      Duration.not_hasCalendarFields_of_balanced? found, (Duration.length_of_balanced? found).symm⟩

/-- An hour and a half is ninety minutes by both ways of asking, and a week and what is not a number
are nothing by either. -/
theorem same_agrees_on_breakdowns :
    (Value.duration hourAndHalf).same (.duration ninetyMinutes) = true ∧
      (Value.duration ninetyMinutes).same (.duration ninetyMinutes) = true ∧
      standard.apply (.relation .equal) (.duration hourAndHalf) (.duration ninetyMinutes) =
        .ok (.boolean true) ∧
      (Value.duration oneWeek).same (.duration oneWeek) = false ∧
      (∃ error,
        standard.apply (.relation .equal) (.duration oneWeek) (.duration oneWeek) = .error error) ∧
      (Value.number .nan).same (.number .nan) = false ∧
      (∃ error,
        standard.apply (.relation .equal) (.number .nan) (.number .nan) = .error error) := by
  rcases same_agrees_with_equal with ⟨agree, calendar, itself, _, rebalanced⟩
  have minutes : Duration.balanced? .minute hourAndHalf.length = some ninetyMinutes := by
    decide +kernel
  have same := rebalanced hourAndHalf ninetyMinutes .minute (by decide) minutes
  have ofDurations := agree (.duration hourAndHalf) (.duration ninetyMinutes) (by decide)
  have ofWeeks := agree (.duration oneWeek) (.duration oneWeek) (by decide)
  have ofNumbers := agree (.number .nan) (.number .nan) (by decide)
  have noNumber := ofNumbers.2.1.mpr (Or.inr (Or.inl (by decide)))
  exact ⟨same, itself ninetyMinutes (by decide), ofDurations.1.mp same,
    (calendar oneWeek oneWeek (by decide)).1, ofWeeks.2.1.mpr (Or.inr (Or.inl (by decide))),
    noNumber.elim fun error failed => ofNumbers.2.2 error failed, noNumber⟩

end Chronometry
