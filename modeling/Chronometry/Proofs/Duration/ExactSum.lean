import Chronometry.Proofs.Order.Equality
import Chronometry.Proofs.Quantity.ReadDuration

/-!
# Sums and differences are exact

Durations are added and subtracted by length, and the outcome is put into fields anew.  It never
reaches beyond the coarser of the two operands, so that it is this grain that decides whether the
outcome is within the limits, and below it every field is carried over to the next grain.  The order
of the operands of a sum plays no part, and a difference takes back a sum.

Counts of nanoseconds are durations of milliseconds and finer grains.  Their sums may stay in still
finer grains, where a thousand nanoseconds are not made into a microsecond; by length they are the
durations of the summed counts.
-/

namespace Chronometry

open Error Registry

theorem Grain.coarser_comm (g h : Grain) : g.coarser h = h.coarser g := by
  apply rank_injective
  rw [rank_coarser, rank_coarser, Nat.max_comm]

namespace Duration

variable {x y s : Duration} {length : Int}

/-- A length in the fields of the coarser of two durations.  No coarser grain is used, and no finer
field holds a whole unit of the next grain. -/
structure Combines (x y : Duration) (length : Int) (s : Duration) : Prop where
  length_eq : s.length = length
  oneSigned : (∀ grain, 0 ≤ s.get grain) ∨ ∀ grain, s.get grain ≤ 0
  unused : ∀ grain : Grain, max x.coarsest.rank y.coarsest.rank < grain.rank -> s.get grain = 0
  carried : ∀ grain : Grain, grain.rank < max x.coarsest.rank y.coarsest.rank ->
    (s.get grain).natAbs < grain.perNext

/-- Without calendar fields the coarser of two coarsest grains has a fixed length. -/
theorem isCalendar_coarser (left : ¬x.HasCalendarFields) (right : ¬y.HasCalendarFields) :
    (x.coarsest.coarser y.coarsest).isCalendar = false := by
  rw [← isCalendar_iff] at left right
  rw [← Bool.not_eq_true, Grain.isCalendar_coarser_iff]
  exact not_or.mpr ⟨left, right⟩

theorem combines_of_combine? (found : combine? x y length = some s) : Combines x y length s := by
  rcases combine?_eq_some_iff.mp found with ⟨left, right, balanced⟩
  have fixed : (x.coarsest.coarser y.coarsest).rank ≤ Grain.day.rank :=
    Nat.le_of_not_lt (of_decide_eq_false (isCalendar_coarser left right))
  refine ⟨length_of_balanced? balanced, s.get_nonneg_or_nonpos, ?_, ?_⟩
  · intro grain above
    rw [← Grain.rank_coarser] at above
    rw [get_of_balanced? balanced, Fields.get_balanced_eq_zero (Or.inr above)]
  · intro grain below
    rw [← Grain.rank_coarser] at below
    rw [get_of_balanced? balanced]
    exact Fields.natAbs_get_balanced_lt below (Nat.lt_of_lt_of_le below fixed) length

/-- The limit of the coarser grain alone decides whether lengths can be combined. -/
theorem exists_combine?_iff (left : ¬x.HasCalendarFields) (right : ¬y.HasCalendarFields)
    (length : Int) :
    (∃ s, combine? x y length = some s) ↔
      (length.tdiv (x.coarsest.coarser y.coarsest).size).natAbs ≤
        (x.coarsest.coarser y.coarsest).limit := by
  rw [← exists_balanced?_iff (isCalendar_coarser left right)]
  simp only [combine?_eq_some_iff, left, right, not_false_eq_true, true_and]

theorem combine?_comm (x y : Duration) (length : Int) :
    combine? x y length = combine? y x length := by
  rw [combine?, combine?, Bool.or_comm, Grain.coarser_comm]

/-- What a call answers in place of a length that two durations combine to. -/
structure AnswersLength (call : TimeCall) (outcome : Except Error Value) (x y : Duration)
    (length : Int) : Prop where
  calendar : x.HasCalendarFields ∨ y.HasCalendarFields ->
    outcome = .error (.outOfRange (.limits call))
  combined : ∀ value, outcome = .ok value -> ∃ s, value = .duration s ∧ Combines x y length s
  answers : ¬x.HasCalendarFields -> ¬y.HasCalendarFields -> ((∃ value, outcome = .ok value) ↔
    (length.tdiv (x.coarsest.coarser y.coarsest).size).natAbs ≤
      (x.coarsest.coarser y.coarsest).limit)
  refuses : ∀ error, outcome = .error error -> error = .outOfRange (.limits call)

theorem withinLimits_duration_eq_ok_iff {call : TimeCall} {answer : Option Duration}
    {value : Value} :
    withinLimits call (.duration <$> answer) = .ok value ↔
      ∃ s, answer = some s ∧ .duration s = value := by
  rw [withinLimits_eq_ok_iff, Option.map_eq_map, Option.map_eq_some_iff]

theorem AnswersLength.of_combine? (call : TimeCall) (x y : Duration) (length : Int) :
    AnswersLength call (withinLimits call (.duration <$> combine? x y length)) x y length where
  calendar := by
    intro calendar
    have either : (x.isCalendar || y.isCalendar) = true := by
      rwa [Bool.or_eq_true, isCalendar_iff, isCalendar_iff]
    rw [combine?, if_pos either]
    rfl
  combined := by
    intro value answered
    rcases withinLimits_duration_eq_ok_iff.mp answered with ⟨s, found, rfl⟩
    exact ⟨s, rfl, combines_of_combine? found⟩
  answers := by
    intro left right
    rw [← exists_combine?_iff left right]
    constructor
    · rintro ⟨value, answered⟩
      rcases withinLimits_duration_eq_ok_iff.mp answered with ⟨s, found, _⟩
      exact ⟨s, found⟩
    · rintro ⟨s, found⟩
      exact ⟨.duration s, withinLimits_duration_eq_ok_iff.mpr ⟨s, found, rfl⟩⟩
  refuses := by
    intro error refused
    exact eq_of_withinLimits_eq_error refused

/-! ## Counts of nanoseconds -/

/-- An operation and the making of a duration have one outcome: both answer, with equal durations,
or both are refused, each in its own words. -/
def AgreesWith (outcome : Except Error Value) (made : Except Error Duration) : Prop :=
  match outcome, made with
  | .ok value, .ok d => value.same (.duration d) = true
  | .error error, .error cause =>
    ∃ call making, error = .outOfRange (.limits call) ∧ cause = .outOfRange (.limits making)
  | _, _ => False

variable {m n : Int}

theorem natAbs_lt_of_ofNanoseconds (made : ofNanoseconds m = .ok x) :
    m.natAbs < 631107417600001000000 :=
  natAbs_lt_of_balanced? (ofNanoseconds_eq_ok_iff.mp made)

theorem coarsest_rank_le_of_ofNanoseconds (made : ofNanoseconds m = .ok x) :
    x.coarsest.rank ≤ Grain.millisecond.rank :=
  coarsest_balanced?_rank_le (ofNanoseconds_eq_ok_iff.mp made)

/-- A count whose duration has no milliseconds is less than one. -/
theorem natAbs_lt_million_of_ofNanoseconds (made : ofNanoseconds m = .ok x)
    (fine : x.coarsest.rank < Grain.millisecond.rank) : m.natAbs < 1000000 := by
  have absent : x.get .millisecond = 0 := by
    apply Decidable.not_not.mp
    intro present
    have reached :=
      (x.lt_rank_coarsest_iff Grain.microsecond.rank).mpr ⟨.millisecond, by decide, present⟩
    exact Nat.not_lt.mpr (Nat.le_of_lt_succ fine) reached
  rw [get_of_balanced? (ofNanoseconds_eq_ok_iff.mp made), Fields.get_balanced_top rfl] at absent
  have quotient := Int.natAbs_tdiv m Grain.millisecond.size
  rw [absent] at quotient
  change 0 = m.natAbs / 1000000 at quotient
  omega

/-- Short lengths are within the limit of every fine grain. -/
theorem exists_balanced?_of_short {top : Grain} (fine : top.rank < Grain.millisecond.rank)
    (short : length.natAbs < 2000000) : ∃ s, balanced? top length = some s := by
  cases top
  case microsecond =>
    rw [exists_balanced?_iff rfl, Int.natAbs_tdiv]
    change length.natAbs / 1000 ≤ 631107417600000000
    omega
  case nanosecond =>
    rw [exists_balanced?_iff rfl, Int.natAbs_tdiv]
    change length.natAbs / 1 ≤ 9223372036854775807
    omega
  all_goals exact absurd fine (by decide)

/-- Whether the coarser grain of two counts admits a length no longer than both does not depend on
that grain. -/
theorem exists_balanced?_coarser_iff (left : ofNanoseconds m = .ok x)
    (right : ofNanoseconds n = .ok y) (bounded : length.natAbs ≤ m.natAbs + n.natAbs) :
    (∃ s, balanced? (x.coarsest.coarser y.coarsest) length = some s) ↔
      ∃ d, balanced? .millisecond length = some d := by
  have rank := Grain.rank_coarser x.coarsest y.coarsest
  have xFine := coarsest_rank_le_of_ofNanoseconds left
  have yFine := coarsest_rank_le_of_ofNanoseconds right
  by_cases reached : (x.coarsest.coarser y.coarsest).rank = Grain.millisecond.rank
  · rw [Grain.rank_injective _ _ reached]
  · have fine : (x.coarsest.coarser y.coarsest).rank < Grain.millisecond.rank := by omega
    have mSmall := natAbs_lt_million_of_ofNanoseconds left (by omega)
    have nSmall := natAbs_lt_million_of_ofNanoseconds right (by omega)
    refine iff_of_true (exists_balanced?_of_short fine (by omega)) ?_
    rw [exists_balanced?_iff rfl, Int.natAbs_tdiv]
    change length.natAbs / 1000000 ≤ 631107417600000
    omega

/-- Combining durations of counts is making the duration of the combined count. -/
theorem agreesWith_ofNanoseconds (call : TimeCall) (left : ofNanoseconds m = .ok x)
    (right : ofNanoseconds n = .ok y) (bounded : length.natAbs ≤ m.natAbs + n.natAbs) :
    AgreesWith (withinLimits call (.duration <$> combine? x y length)) (ofNanoseconds length) := by
  have xPlain := not_hasCalendarFields_of_balanced? (ofNanoseconds_eq_ok_iff.mp left)
  have yPlain := not_hasCalendarFields_of_balanced? (ofNanoseconds_eq_ok_iff.mp right)
  have both := exists_balanced?_coarser_iff left right bounded
  have moderate : length.natAbs ≤ Nat.pow 2 80 := by
    have := natAbs_lt_of_ofNanoseconds left
    have := natAbs_lt_of_ofNanoseconds right
    change length.natAbs ≤ 1208925819614629174706176
    omega
  have combined : combine? x y length = balanced? (x.coarsest.coarser y.coarsest) length := by
    ext s
    rw [combine?_eq_some_iff, and_iff_right xPlain, and_iff_right yPlain]
  rw [ofNanoseconds_eq_withinLimits moderate, combined]
  cases summed : balanced? (x.coarsest.coarser y.coarsest) length with
  | none =>
      cases made : balanced? .millisecond length with
      | none => exact ⟨_, _, rfl, rfl⟩
      | some d =>
          rw [summed, made] at both
          simp at both
  | some s =>
      cases made : balanced? .millisecond length with
      | none =>
          rw [summed, made] at both
          simp at both
      | some d =>
          refine (Value.same_duration_iff s d).mpr ⟨not_hasCalendarFields_of_balanced? summed,
            not_hasCalendarFields_of_balanced? made, ?_⟩
          rw [length_of_balanced? summed, length_of_balanced? made]

/-- What a sum added, the difference takes back. -/
theorem same_of_apply_add_of_apply_subtract {s z : Value}
    (sum : standard.apply .add (.duration x) (.duration y) = .ok s)
    (difference : standard.apply .subtract s (.duration y) = .ok z) :
    z.same (.duration x) = true := by
  rw [apply_add_durations, withinLimits_duration_eq_ok_iff] at sum
  rcases sum with ⟨total, added, rfl⟩
  rw [apply_subtract_durations, withinLimits_duration_eq_ok_iff] at difference
  rcases difference with ⟨rest, subtracted, rfl⟩
  have restored : rest.length = x.length := by
    rw [length_of_combine? subtracted, length_of_combine? added, Int.add_sub_cancel]
  exact (Value.same_duration_iff rest x).mpr
    ⟨not_hasCalendarFields_of_combine? subtracted, (combine?_eq_some_iff.mp added).1, restored⟩

/-- Exchanging the operands of a sum changes nothing but the words in which it is refused. -/
theorem apply_add_durations_comm (x y : Duration) :
    (∃ value, standard.apply .add (.duration x) (.duration y) = .ok value ∧
      standard.apply .add (.duration y) (.duration x) = .ok value) ∨
    (standard.apply .add (.duration x) (.duration y) = .error (.outOfRange (.limits (.sum x y))) ∧
      standard.apply .add (.duration y) (.duration x) =
        .error (.outOfRange (.limits (.sum y x)))) := by
  rw [apply_add_durations, apply_add_durations, add?, add?, Int.add_comm, combine?_comm]
  cases combine? y x (y.length + x.length) with
  | none => exact Or.inr ⟨rfl, rfl⟩
  | some s => exact Or.inl ⟨_, rfl, rfl⟩

end Duration

open Duration

/-- Durations are added and subtracted exactly.  The outcome has the length that was asked for, in
fields of one sign from the coarser of the two coarsest grains downward, and only its coarsest field
can be beyond the limits.  Calendar fields are refused.  The operands of a sum can be exchanged, a
difference takes back a sum, and counts of nanoseconds are added and subtracted as numbers. -/
theorem sums_and_differences_are_exact :
    (∀ x y : Duration,
      AnswersLength (.sum x y) (standard.apply .add (.duration x) (.duration y)) x y
        (x.length + y.length) ∧
      AnswersLength (.difference x y) (standard.apply .subtract (.duration x) (.duration y)) x y
        (x.length - y.length)) ∧
    (∀ x y : Duration,
      (∃ value, standard.apply .add (.duration x) (.duration y) = .ok value ∧
        standard.apply .add (.duration y) (.duration x) = .ok value) ∨
      (standard.apply .add (.duration x) (.duration y) =
          .error (.outOfRange (.limits (.sum x y))) ∧
        standard.apply .add (.duration y) (.duration x) =
          .error (.outOfRange (.limits (.sum y x))))) ∧
    (∀ (x y : Duration) (s z : Value), standard.apply .add (.duration x) (.duration y) = .ok s ->
      standard.apply .subtract s (.duration y) = .ok z -> z.same (.duration x) = true) ∧
    (∀ (m n : Int) (x y : Duration), ofNanoseconds m = .ok x -> ofNanoseconds n = .ok y ->
      AgreesWith (standard.apply .add (.duration x) (.duration y)) (ofNanoseconds (m + n)) ∧
      AgreesWith (standard.apply .subtract (.duration x) (.duration y))
        (ofNanoseconds (m - n))) := by
  refine ⟨?_, ?_, ?_, ?_⟩
  · intro x y
    rw [apply_add_durations, apply_subtract_durations]
    exact ⟨AnswersLength.of_combine? _ x y _, AnswersLength.of_combine? _ x y _⟩
  · exact apply_add_durations_comm
  · intro x y s z sum difference
    exact same_of_apply_add_of_apply_subtract sum difference
  · intro m n x y left right
    have xLength := length_of_balanced? (ofNanoseconds_eq_ok_iff.mp left)
    have yLength := length_of_balanced? (ofNanoseconds_eq_ok_iff.mp right)
    rw [apply_add_durations, apply_subtract_durations, add?, sub?, xLength, yLength]
    exact ⟨agreesWith_ofNanoseconds _ left right (by omega),
      agreesWith_ofNanoseconds _ left right (by omega)⟩

def threeHours : Duration := ⟨⟨0, 0, 0, 0, 3, 0, 0, 0, 0, 0⟩, by decide, by decide⟩

/-- Ninety minutes and an hour and a half make three hours, from which an hour and a half leaves
ninety minutes again.  A week is refused, and one nanosecond more than the limits admit is refused
as a sum and as a count. -/
theorem exact_sums_of_breakdowns :
    (standard.apply .add (.duration ninetyMinutes) (.duration hourAndHalf) =
      .ok (.duration threeHours) ∧
      Combines ninetyMinutes hourAndHalf 10800000000000 threeHours ∧
      standard.apply .subtract (.duration threeHours) (.duration hourAndHalf) =
        .ok (.duration hourAndHalf) ∧
      (Value.duration hourAndHalf).same (.duration ninetyMinutes) = true) ∧
    standard.apply .add (.duration oneWeek) (.duration ninetyMinutes) =
      .error (.outOfRange (.limits (.sum oneWeek ninetyMinutes))) ∧
    (∃ x y, ofNanoseconds 631107417600000999999 = .ok x ∧ ofNanoseconds 1 = .ok y ∧
      standard.apply .add (.duration x) (.duration y) =
        .error (.outOfRange (.limits (.sum x y))) ∧
      AgreesWith (standard.apply .add (.duration x) (.duration y))
        (ofNanoseconds 631107417600001000000)) := by
  rcases sums_and_differences_are_exact with ⟨answers, _, undone, counts⟩
  have sum : standard.apply .add (.duration ninetyMinutes) (.duration hourAndHalf) =
      .ok (.duration threeHours) := rfl
  have difference :
      standard.apply .subtract (.duration threeHours) (.duration hourAndHalf) =
        .ok (.duration hourAndHalf) := rfl
  refine ⟨⟨sum, ?_, difference, undone _ _ _ _ sum difference⟩, ?_, ?_⟩
  · rcases (answers ninetyMinutes hourAndHalf).1.combined _ sum with ⟨s, same, combines⟩
    rw [Value.duration.inj same]
    exact combines
  · exact (answers oneWeek ninetyMinutes).1.calendar (Or.inl (by decide))
  · have most : ofNanoseconds 631107417600000999999 =
        .ok ⟨⟨0, 0, 0, 0, 0, 0, 0, 631107417600000, 999, 999⟩, by decide, by decide⟩ := rfl
    have one : ofNanoseconds 1 = .ok ⟨⟨0, 0, 0, 0, 0, 0, 0, 0, 0, 1⟩, by decide, by decide⟩ := rfl
    exact ⟨_, _, most, one, rfl, (counts 631107417600000999999 1 _ _ most one).1⟩

end Chronometry
