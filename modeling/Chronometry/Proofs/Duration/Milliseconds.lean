import Chronometry.Duration.Conversion
import Chronometry.Proofs.Binary64.Position
import Chronometry.Proofs.Duration.Sum

/-!
# Durations of milliseconds

A number of milliseconds becomes the nearest count of nanoseconds, and the count is put into fields
from milliseconds downward.  The word of 64 bits that the milliseconds must fit is wider than the
limit of their field, so that the limit alone decides.  Opposite numbers become opposite durations.
-/

namespace Chronometry

namespace Binary64

theorem round_not (negative : Bool) (numerator denominator : Nat) :
    round (!negative) numerator denominator = -round negative numerator denominator := by
  change _ = neg _
  unfold round
  split
  · rfl
  · rfl

/-- Unless the second factor is zero, the product with the opposite is the opposite product. -/
theorem neg_mul_of_standsAt (x : Binary64) {y : Binary64} {q : Int} (standing : y.StandsAt q)
    (nonzero : q ≠ 0) :
    -x * y = -(x * y) := by
  rcases standsAt_iff.mp standing with ⟨right, n, representable, rfl, rfl⟩
  have magnitude : n ≠ 0 := by
    rwa [← Int.natAbs_ne_zero, natAbs_signed] at nonzero
  cases x with
  | nan => rfl
  | infinity left =>
      change mul (infinity (!left)) _ = neg (mul (infinity left) _)
      simp only [mul, if_neg magnitude]
      cases left <;> cases right <;> rfl
  | finite left m _ =>
      have sides : ((!left) != right) = !(left != right) := by cases left <;> cases right <;> rfl
      rw [neg_finite, finite_mul_finite, finite_mul_finite, sides, round_not]

theorem million_standsAt : (1000000 : Binary64).StandsAt (1000000 * quantaPerOne : Nat) :=
  ⟨by decide +kernel, by decide +kernel⟩

theorem neg_mul_million (x : Binary64) : -x * 1000000 = -(x * 1000000) := by
  have nonzero : ((1000000 * quantaPerOne : Nat) : Int) ≠ 0 := by decide +kernel
  exact neg_mul_of_standsAt x million_standsAt nonzero

theorem nearest?_neg (x : Binary64) : (-x).nearest? = x.nearest?.map fun count => -count := by
  cases x with
  | nan => rfl
  | infinity => rfl
  | finite negative quanta representable =>
      rw [neg_finite]
      simp only [nearest?, signed_not, Option.map_some]

theorem neg_neg_eq_self (x : Binary64) : - -x = x := by
  change neg (neg x) = x
  cases x with
  | nan => rfl
  | infinity negative => simp only [neg, Bool.not_not]
  | finite negative quanta representable => simp only [neg, Bool.not_not]

end Binary64

namespace Duration

theorem natAbs_tdiv_million_le_of_balanced? {count : Int} {d : Duration}
    (found : balanced? .millisecond count = some d) :
    (count.tdiv 1000000).natAbs ≤ 631107417600000 :=
  (exists_balanced?_iff rfl count).mp ⟨d, found⟩

/-- No count of nanoseconds that a duration holds is longer than the longest duration. -/
theorem natAbs_lt_of_balanced? {count : Int} {d : Duration}
    (found : balanced? .millisecond count = some d) :
    count.natAbs < 631107417600001000000 := by
  have within := natAbs_tdiv_million_le_of_balanced? found
  rw [Int.natAbs_tdiv] at within
  change count.natAbs / 1000000 ≤ 631107417600000 at within
  omega

/-- The limit of the milliseconds is the only limit that matters. -/
theorem ofNanoseconds_eq_ok_iff {count : Int} {d : Duration} :
    ofNanoseconds count = .ok d ↔ balanced? .millisecond count = some d := by
  simp only [ofNanoseconds]
  constructor
  · intro made
    split at made
    next => exact Error.withinLimits_eq_ok_iff.mp made
    next => contradiction
  · intro found
    have within := natAbs_tdiv_million_le_of_balanced? found
    rw [if_pos (by omega), found]
    rfl

theorem ofMilliseconds_eq_ok_iff {milliseconds : Binary64} {d : Duration} :
    ofMilliseconds milliseconds = .ok d ↔
      milliseconds.isFinite = true ∧
        ∃ count, (milliseconds * 1000000).nearest? = some count ∧
          balanced? .millisecond count = some d := by
  unfold ofMilliseconds
  cases finite : milliseconds.isFinite with
  | false =>
      constructor
      · intro impossible
        contradiction
      · intro impossible
        exact absurd impossible.1 Bool.false_ne_true
  | true =>
      simp only [Bool.not_true, Bool.false_eq_true, if_false, true_and]
      cases nearest : (milliseconds * 1000000).nearest? with
      | none =>
          constructor
          · intro impossible
            contradiction
          · rintro ⟨_, impossible, _⟩
            contradiction
      | some count =>
          simp only [Option.some.injEq, exists_eq_left']
          constructor
          · intro made
            split at made
            next => exact ofNanoseconds_eq_ok_iff.mp made
            next => contradiction
          · intro found
            rw [if_pos (Nat.lt_trans (natAbs_lt_of_balanced? found) (by decide))]
            exact ofNanoseconds_eq_ok_iff.mpr found

/-- A duration of milliseconds has no days, and so it moves every instant that it does not move
beyond the limits. -/
theorem not_hasDayFields_of_ofMilliseconds {milliseconds : Binary64} {d : Duration}
    (made : ofMilliseconds milliseconds = .ok d) : ¬d.HasDayFields := by
  rcases ofMilliseconds_eq_ok_iff.mp made with ⟨_, count, _, found⟩
  exact not_hasDayFields_of_balanced? (by decide) found

theorem exists_balanced?_neg {top : Grain} (fixed : top.isCalendar = false) {length : Int}
    {d : Duration} (found : balanced? top length = some d) :
    ∃ e, balanced? top (-length) = some e := by
  rw [exists_balanced?_iff fixed, Int.neg_tdiv, Int.natAbs_neg, ← exists_balanced?_iff fixed]
  exact ⟨d, found⟩

/-- The opposite number becomes a duration of the opposite length. -/
theorem exists_ofMilliseconds_neg {milliseconds : Binary64} {d : Duration}
    (made : ofMilliseconds milliseconds = .ok d) :
    ∃ e, ofMilliseconds (-milliseconds) = .ok e ∧ e.length = -d.length := by
  rcases ofMilliseconds_eq_ok_iff.mp made with ⟨finite, count, nearest, found⟩
  rcases exists_balanced?_neg rfl found with ⟨e, opposite⟩
  refine ⟨e, ofMilliseconds_eq_ok_iff.mpr ⟨?_, -count, ?_, opposite⟩, ?_⟩
  · rw [Binary64.isFinite_neg, finite]
  · rw [Binary64.neg_mul_million, Binary64.nearest?_neg, nearest]
    rfl
  · rw [length_of_balanced? opposite, length_of_balanced? found]

theorem exists_ofMilliseconds_neg_iff (milliseconds : Binary64) :
    (∃ e, ofMilliseconds (-milliseconds) = .ok e) ↔ ∃ d, ofMilliseconds milliseconds = .ok d := by
  constructor
  · rintro ⟨e, opposite⟩
    rcases exists_ofMilliseconds_neg opposite with ⟨d, made, _⟩
    rw [Binary64.neg_neg_eq_self] at made
    exact ⟨d, made⟩
  · rintro ⟨d, made⟩
    rcases exists_ofMilliseconds_neg made with ⟨e, opposite, _⟩
    exact ⟨e, opposite⟩

/-- Opposite numbers become durations with opposite fields. -/
theorem get_of_ofMilliseconds_neg {milliseconds : Binary64} {d e : Duration}
    (made : ofMilliseconds milliseconds = .ok d) (opposite : ofMilliseconds (-milliseconds) = .ok e)
    (grain : Grain) : e.get grain = -d.get grain := by
  rcases ofMilliseconds_eq_ok_iff.mp made with ⟨_, count, nearest, found⟩
  rcases ofMilliseconds_eq_ok_iff.mp opposite with ⟨_, mirrored, nearestMirrored, foundMirrored⟩
  rw [Binary64.neg_mul_million, Binary64.nearest?_neg, nearest, Option.map_some, Option.some.injEq]
    at nearestMirrored
  subst nearestMirrored
  rw [get_of_balanced? foundMirrored, get_of_balanced? found, Fields.get_balanced_neg]

end Duration
end Chronometry
