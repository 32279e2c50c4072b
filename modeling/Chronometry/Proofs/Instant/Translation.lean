import Chronometry.Proofs.Duration.Sum
import Chronometry.Proofs.Order.Comparison

/-!
# Durations move instants

A duration without fields of a day or coarser moves every instant by its exact length.  The only
question is whether the count that is reached lies within the limits; nothing is rounded, and the
order of the operands does not matter.  The laws of translation follow: a step back undoes a step
forward, two steps are one step by the sum, and the order of two instants survives a common step.

A duration with a field of a day or coarser moves no instant at all.
-/

namespace Chronometry

open Error Registry

namespace Instant

/-- The first instant within the limits. -/
def first : Instant := ⟨-377705023201000000000, by decide, by decide⟩

/-- The last instant within the limits. -/
def last : Instant := ⟨253402207200999999999, by decide, by decide⟩

theorem shift?_eq_some_iff {a b : Instant} {count : Int} :
    a.shift? count = some b ↔ b.nanoseconds = a.nanoseconds + count :=
  ofNanoseconds?_eq_some_iff

/-- The guard that addition and subtraction share. -/
theorem unless_days_eq_some_iff {d : Duration} {answer : Option Instant} {b : Instant} :
    (if d.hasDays = true then none else answer) = some b ↔
      ¬d.HasDayFields ∧ answer = some b := by
  rw [← Duration.hasDays_iff]
  by_cases long : d.hasDays = true
  · simp [long]
  · simp [long]

/-- An instant reaches another by a duration exactly when the duration has no days and is the
distance between them. -/
theorem add?_eq_some_iff {a b : Instant} {d : Duration} :
    a.add? d = some b ↔ ¬d.HasDayFields ∧ b.nanoseconds = a.nanoseconds + d.length := by
  rw [add?, unless_days_eq_some_iff, shift?_eq_some_iff]

theorem sub?_eq_some_iff {a b : Instant} {d : Duration} :
    a.sub? d = some b ↔ ¬d.HasDayFields ∧ b.nanoseconds = a.nanoseconds - d.length := by
  rw [sub?, unless_days_eq_some_iff, shift?_eq_some_iff, Int.sub_eq_add_neg]

end Instant

/-! ## Answers of the standard registry -/

/-- A call answers with the instant at a count of nanoseconds: with exactly that instant when the
count lies within the limits, and otherwise with its refusal. -/
structure AnswersInstantAt (call : TimeCall) (answer : Except Error Value) (count : Int) :
  Prop where
  within : ∀ (lower : -377705023201000000000 ≤ count) (upper : count ≤ 253402207200999999999),
    answer = .ok (.instant ⟨count, lower, upper⟩)
  beyond : ¬(-377705023201000000000 ≤ count ∧ count ≤ 253402207200999999999) ->
    answer = .error (.outOfRange (.limits call))

theorem withinLimits_instant_eq_ok_iff {call : TimeCall} {answer : Option Instant} {value : Value} :
    withinLimits call (.instant <$> answer) = .ok value ↔
      ∃ b, answer = some b ∧ .instant b = value := by
  rw [withinLimits_eq_ok_iff, Option.map_eq_map, Option.map_eq_some_iff]

/-- A call that finds the instant at a count, and finds no other, answers with it. -/
theorem AnswersInstantAt.of_iff {call : TimeCall} {answer : Option Instant} {count : Int}
    (found : ∀ b, answer = some b ↔ b.nanoseconds = count) :
    AnswersInstantAt call (withinLimits call (.instant <$> answer)) count where
  within lower upper := by
    rw [(found ⟨count, lower, upper⟩).mpr rfl]
    rfl
  beyond outside := by
    cases answer with
    | none => rfl
    | some b =>
        have reached := (found b).mp rfl
        exact absurd ⟨reached ▸ b.lower_le, reached ▸ b.le_upper⟩ outside

theorem apply_add_eq_ok_iff {a : Instant} {d : Duration} {value : Value} :
    standard.apply .add (.instant a) (.duration d) = .ok value ↔
      ∃ b : Instant,
        (¬d.HasDayFields ∧ b.nanoseconds = a.nanoseconds + d.length) ∧ .instant b = value := by
  rw [apply_add_instant_duration, withinLimits_instant_eq_ok_iff]
  simp only [Instant.add?_eq_some_iff]

theorem apply_subtract_eq_ok_iff {a : Instant} {d : Duration} {value : Value} :
    standard.apply .subtract (.instant a) (.duration d) = .ok value ↔
      ∃ b : Instant,
        (¬d.HasDayFields ∧ b.nanoseconds = a.nanoseconds - d.length) ∧ .instant b = value := by
  rw [apply_subtract_instant_duration, withinLimits_instant_eq_ok_iff]
  simp only [Instant.sub?_eq_some_iff]

/-- A sum of durations has the combined length, and days only if one of the terms has. -/
theorem of_apply_add_durations {x y : Duration} {value : Value}
    (sum : standard.apply .add (.duration x) (.duration y) = .ok value) :
    ∃ s : Duration, .duration s = value ∧ s.length = x.length + y.length ∧
      (¬x.HasDayFields -> ¬y.HasDayFields -> ¬s.HasDayFields) := by
  rw [apply_add_durations, withinLimits_eq_ok_iff, Option.map_eq_map, Option.map_eq_some_iff] at sum
  rcases sum with ⟨s, found, same⟩
  exact ⟨s, same, Duration.length_of_combine? found,
    fun left right => Duration.not_hasDayFields_of_combine? left right found⟩

/-! ## The laws of translation -/

theorem refused_of_hasDayFields (a : Instant) {d : Duration} (long : d.HasDayFields) :
    standard.apply .add (.instant a) (.duration d) = .error (.outOfRange (.limits (.later a d))) ∧
      standard.apply .add (.duration d) (.instant a) =
        .error (.outOfRange (.limits (.later a d))) ∧
      standard.apply .subtract (.instant a) (.duration d) =
        .error (.outOfRange (.limits (.earlier a d))) := by
  have hasDays := d.hasDays_iff.mpr long
  rw [apply_add_instant_duration, apply_add_duration_instant, apply_subtract_instant_duration,
    Instant.add?, Instant.sub?, if_pos hasDays, if_pos hasDays]
  exact ⟨rfl, rfl, rfl⟩

theorem answersInstantAt_of_short (a : Instant) {d : Duration} (short : ¬d.HasDayFields) :
    AnswersInstantAt (.later a d) (standard.apply .add (.instant a) (.duration d))
        (a.nanoseconds + d.length) ∧
      AnswersInstantAt (.later a d) (standard.apply .add (.duration d) (.instant a))
        (a.nanoseconds + d.length) ∧
      AnswersInstantAt (.earlier a d) (standard.apply .subtract (.instant a) (.duration d))
        (a.nanoseconds - d.length) := by
  have sum : ∀ b, a.add? d = some b ↔ b.nanoseconds = a.nanoseconds + d.length := by
    intro b
    rw [Instant.add?_eq_some_iff, and_iff_right short]
  have difference : ∀ b, a.sub? d = some b ↔ b.nanoseconds = a.nanoseconds - d.length := by
    intro b
    rw [Instant.sub?_eq_some_iff, and_iff_right short]
  rw [apply_add_instant_duration, apply_add_duration_instant, apply_subtract_instant_duration]
  exact ⟨.of_iff sum, .of_iff sum, .of_iff difference⟩

variable {a b : Instant} {d e : Duration} {p q s : Value}

/-- A step back undoes a step forward. -/
theorem subtract_of_add (moved : standard.apply .add (.instant a) (.duration d) = .ok p) :
    standard.apply .subtract p (.duration d) = .ok (.instant a) := by
  rcases apply_add_eq_ok_iff.mp moved with ⟨reached, ⟨short, count⟩, rfl⟩
  exact apply_subtract_eq_ok_iff.mpr ⟨a, ⟨short, by omega⟩, rfl⟩

/-- A step goes in the direction of its sign. -/
theorem compares_of_add (moved : standard.apply .add (.instant a) (.duration d) = .ok p) :
    Compares p (.instant a) d.sign := by
  rcases apply_add_eq_ok_iff.mp moved with ⟨reached, ⟨short, count⟩, rfl⟩
  have plain := Duration.not_hasCalendarFields_of_not_hasDayFields short
  have distance : reached.nanoseconds - a.nanoseconds = d.length := by omega
  rw [compares_instants_iff, distance, Duration.sign_eq_sign_length plain]

/-- Two steps are one step by the sum.  The sum is balanced anew on the way, which neither gives it
days nor changes its length. -/
theorem add_sum_of_add_add (moved : standard.apply .add (.instant a) (.duration d) = .ok p)
    (movedAgain : standard.apply .add p (.duration e) = .ok q)
    (sum : standard.apply .add (.duration d) (.duration e) = .ok s) :
    standard.apply .add (.instant a) s = .ok q := by
  rcases apply_add_eq_ok_iff.mp moved with ⟨reached, ⟨short, count⟩, rfl⟩
  rcases apply_add_eq_ok_iff.mp movedAgain with ⟨last, ⟨shortToo, lastCount⟩, rfl⟩
  rcases of_apply_add_durations sum with ⟨total, rfl, length, days⟩
  exact apply_add_eq_ok_iff.mpr ⟨last, ⟨days short shortToo, by omega⟩, rfl⟩

/-- A common step keeps the order of two instants. -/
theorem compare_of_common_step (left : standard.apply .add (.instant a) (.duration d) = .ok p)
    (right : standard.apply .add (.instant b) (.duration d) = .ok q) :
    standard.apply .compare p q = standard.apply .compare (.instant a) (.instant b) := by
  rcases apply_add_eq_ok_iff.mp left with ⟨first, ⟨_, firstCount⟩, rfl⟩
  rcases apply_add_eq_ok_iff.mp right with ⟨second, ⟨_, secondCount⟩, rfl⟩
  have same : first.order second = a.order b := by
    simp only [Instant.order, Int.compare_eq_ite_lt, firstCount, secondCount,
      Int.add_lt_add_iff_right]
  rw [apply_compare_instants, apply_compare_instants, same]

/-- Durations act on instants by exact translation.  With a field of a day or coarser they are
refused; without one the count of the answer is the count of the instant plus or minus the length of
the duration, for every instant whose answer is within the limits. -/
theorem duration_translates_instant (a : Instant) (d : Duration) :
    (d.HasDayFields ->
      standard.apply .add (.instant a) (.duration d) =
          .error (.outOfRange (.limits (.later a d))) ∧
        standard.apply .add (.duration d) (.instant a) =
          .error (.outOfRange (.limits (.later a d))) ∧
        standard.apply .subtract (.instant a) (.duration d) =
          .error (.outOfRange (.limits (.earlier a d)))) ∧
    (¬d.HasDayFields ->
      AnswersInstantAt (.later a d) (standard.apply .add (.instant a) (.duration d))
          (a.nanoseconds + d.length) ∧
        AnswersInstantAt (.later a d) (standard.apply .add (.duration d) (.instant a))
          (a.nanoseconds + d.length) ∧
        AnswersInstantAt (.earlier a d) (standard.apply .subtract (.instant a) (.duration d))
          (a.nanoseconds - d.length)) ∧
    (∀ b : Value, standard.apply .add (.instant a) (.duration d) = .ok b ->
      standard.apply .subtract b (.duration d) = .ok (.instant a) ∧
        Compares b (.instant a) d.sign ∧
        ∀ (e : Duration) (c s : Value), standard.apply .add b (.duration e) = .ok c ->
          standard.apply .add (.duration d) (.duration e) = .ok s ->
            standard.apply .add (.instant a) s = .ok c) ∧
    (∀ (b : Instant) (p q : Value), standard.apply .add (.instant a) (.duration d) = .ok p ->
      standard.apply .add (.instant b) (.duration d) = .ok q ->
        standard.apply .compare p q = standard.apply .compare (.instant a) (.instant b)) := by
  refine ⟨refused_of_hasDayFields a, answersInstantAt_of_short a, ?_, ?_⟩
  · intro b moved
    refine ⟨subtract_of_add moved, compares_of_add moved, ?_⟩
    intro e c s movedAgain sum
    exact add_sum_of_add_add moved movedAgain sum
  · intro b p q left right
    exact compare_of_common_step left right

/-- An hour, thirty minutes and a nanosecond. -/
def overNinetyMinutes : Duration := ⟨⟨0, 0, 0, 0, 1, 30, 0, 0, 0, 1⟩, by decide, by decide⟩

/-- The instant from which that duration leads to the last one. -/
def ninetyMinutesBeforeLast : Instant := ⟨253402201800999999998, by decide, by decide⟩

/-- The last instant is reached and left again, and nothing is reached from it. -/
theorem duration_translates_to_last :
    standard.apply .add (.instant ninetyMinutesBeforeLast) (.duration overNinetyMinutes) =
      .ok (.instant .last) ∧
      standard.apply .subtract (.instant .last) (.duration overNinetyMinutes) =
        .ok (.instant ninetyMinutesBeforeLast) ∧
      Compares (.instant .last) (.instant ninetyMinutesBeforeLast) 1 ∧
      standard.apply .add (.instant .last) (.duration overNinetyMinutes) =
        .error (.outOfRange (.limits (.later .last overNinetyMinutes))) := by
  have reached :
      standard.apply .add (.instant ninetyMinutesBeforeLast) (.duration overNinetyMinutes) =
        .ok (.instant .last) := rfl
  have laws :=
    (duration_translates_instant ninetyMinutesBeforeLast overNinetyMinutes).2.2.1 _ reached
  have atLast := (duration_translates_instant .last overNinetyMinutes).2.1 (by decide)
  exact ⟨reached, laws.1, laws.2.1, atLast.1.beyond (by decide)⟩

end Chronometry
