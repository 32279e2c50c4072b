import Chronometry.Proofs.Duration.Sign
import Chronometry.Proofs.Registry.Standard

/-!
# What a comparison answers

A comparison answers with a number that stands for a sign.  For two instants the sign is that of the
difference of their counts of nanoseconds.  For two durations it is the sign of the difference of
their lengths, and there is no answer when one of them has calendar fields.  Whatever is said about
the order of values of time follows from these two statements.
-/

namespace Chronometry

namespace Arithmetic

/-- The whole number that stands for an order. -/
def signum : Ordering -> Int
  | .lt => -1
  | .eq => 0
  | .gt => 1

theorem signOf_eq_ofInt (order : Ordering) : signOf order = Binary64.ofInt (signum order) := by
  cases order <;> decide +kernel

theorem signOf_injective {first second : Ordering} (same : signOf first = signOf second) :
    first = second := by
  revert same
  cases first <;> cases second <;> decide +kernel

theorem signum_mem (order : Ordering) :
    signum order = -1 ∨ signum order = 0 ∨ signum order = 1 := by
  cases order <;> decide

/-- Every sign stands for an order. -/
theorem exists_signum {sign : Int} (isSign : sign = -1 ∨ sign = 0 ∨ sign = 1) :
    ∃ order, signum order = sign := by
  rcases isSign with rfl | rfl | rfl
  · exact ⟨.lt, rfl⟩
  · exact ⟨.eq, rfl⟩
  · exact ⟨.gt, rfl⟩

theorem signum_compare (m n : Int) : signum (compare m n) = (m - n).sign := by
  rcases Int.lt_trichotomy m n with less | same | greater
  · rw [Int.compare_eq_lt.mpr less, Int.sign_eq_neg_one_of_neg (by omega)]
    rfl
  · rw [Int.compare_eq_eq.mpr same, same, Int.sub_self]
    rfl
  · rw [Int.compare_eq_gt.mpr greater, Int.sign_eq_one_of_pos (by omega)]
    rfl

end Arithmetic

open Arithmetic

/-- The standard comparison of two values answers with a sign. -/
def Compares (a b : Value) (sign : Int) : Prop :=
  (sign = -1 ∨ sign = 0 ∨ sign = 1) ∧
    Registry.standard.apply .compare a b = .ok (.number (Binary64.ofInt sign))

/-- Signs and orders say the same about a comparison. -/
theorem compares_iff (a b : Value) (sign : Int) :
    Compares a b sign ↔
      ∃ order, signum order = sign ∧
        Registry.standard.apply .compare a b = .ok (.number (signOf order)) := by
  constructor
  · rintro ⟨isSign, answer⟩
    rcases exists_signum isSign with ⟨order, rfl⟩
    exact ⟨order, rfl, signOf_eq_ofInt order ▸ answer⟩
  · rintro ⟨order, rfl, answer⟩
    exact ⟨signum_mem order, signOf_eq_ofInt order ▸ answer⟩

/-- A comparison that answers with an order answers with the sign of that order alone. -/
theorem compares_iff_of_apply {a b : Value} {order : Ordering}
    (answer : Registry.standard.apply .compare a b = .ok (.number (signOf order))) (sign : Int) :
    Compares a b sign ↔ sign = signum order := by
  rw [compares_iff, answer]
  constructor
  · rintro ⟨other, rfl, same⟩
    simp only [Except.ok.injEq, Value.number.injEq] at same
    rw [signOf_injective same]
  · rintro rfl
    exact ⟨order, rfl, rfl⟩

/-! ## Instants -/

theorem compares_instants_iff (a b : Instant) (sign : Int) :
    Compares (.instant a) (.instant b) sign ↔ sign = (a.nanoseconds - b.nanoseconds).sign := by
  rw [compares_iff_of_apply (Registry.apply_compare_instants a b), Instant.order, signum_compare]

/-! ## Durations -/

theorem Duration.order?_of_calendar {x y : Duration}
    (calendar : x.HasCalendarFields ∨ y.HasCalendarFields) :
    x.order? y = none := by
  have either : (x.isCalendar || y.isCalendar) = true := by
    rwa [Bool.or_eq_true, isCalendar_iff, isCalendar_iff]
  rw [order?, if_pos either]

theorem Duration.order?_of_plain {x y : Duration} (left : ¬x.HasCalendarFields)
    (right : ¬y.HasCalendarFields) :
    x.order? y = some (compare x.length y.length) := by
  have neither : ¬(x.isCalendar || y.isCalendar) = true := by
    rw [Bool.or_eq_true, isCalendar_iff, isCalendar_iff, not_or]
    exact ⟨left, right⟩
  rw [order?, if_neg neither]

/-- Durations without calendar fields are equal as values when they have one length. -/
theorem Duration.sameLength_iff {x y : Duration} (left : ¬x.HasCalendarFields)
    (right : ¬y.HasCalendarFields) :
    x.sameLength y = true ↔ x.length = y.length := by
  rw [sameLength, order?_of_plain left right, beq_iff_eq, Option.some_inj, Int.compare_eq_eq]

theorem apply_compare_of_calendar {x y : Duration}
    (calendar : x.HasCalendarFields ∨ y.HasCalendarFields) :
    Registry.standard.apply .compare (.duration x) (.duration y) =
      .error (.outOfRange (.limits (.comparison x y))) := by
  rw [Registry.apply_compare_durations, Duration.order?_of_calendar calendar]
  rfl

theorem apply_compare_of_plain {x y : Duration} (left : ¬x.HasCalendarFields)
    (right : ¬y.HasCalendarFields) :
    Registry.standard.apply .compare (.duration x) (.duration y) =
      .ok (.number (signOf (compare x.length y.length))) := by
  rw [Registry.apply_compare_durations, Duration.order?_of_plain left right]
  rfl

/-- Durations without calendar fields compare by length, and no others compare. -/
theorem compares_durations_iff (x y : Duration) (sign : Int) :
    Compares (.duration x) (.duration y) sign ↔
      ¬x.HasCalendarFields ∧ ¬y.HasCalendarFields ∧ sign = (x.length - y.length).sign := by
  by_cases calendar : x.HasCalendarFields ∨ y.HasCalendarFields
  · have refused := apply_compare_of_calendar calendar
    constructor
    · intro compared
      rw [Compares, refused] at compared
      exact absurd compared.2 (by simp)
    · intro plain
      exact absurd calendar (not_or.mpr ⟨plain.1, plain.2.1⟩)
  · rcases not_or.mp calendar with ⟨left, right⟩
    rw [compares_iff_of_apply (apply_compare_of_plain left right), signum_compare]
    simp only [left, right, not_false_eq_true, true_and]

end Chronometry
