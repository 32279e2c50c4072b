import Chronometry.Proofs.Binary64.Closeness
import Chronometry.Proofs.Duration.Milliseconds

/-!
# From milliseconds to nanoseconds and back

What a number of milliseconds becomes as a duration depends on its position alone: the position is
multiplied by a million and rounded, and the whole number nearest to it is the length in
nanoseconds.  The length is then an exact whole number again, and it is the total of the duration
once more rounded and divided by a million.
-/

namespace Chronometry
namespace Binary64

variable {x y : Binary64} {p q position : Int}

/-! ## The nearest whole number -/

/-- The whole number nearest to a position, a half going away from zero. -/
def nearestWhole (position : Int) : Int :=
  signed (position < 0) ((2 * position.natAbs + quantaPerOne) / (2 * quantaPerOne))

theorem nearest?_of_standsAt (standing : x.StandsAt p) : x.nearest? = some (nearestWhole p) := by
  rcases standsAt_iff.mp standing with ⟨negative, quanta, _, rfl, rfl⟩
  rw [nearestWhole, natAbs_signed]
  simp only [nearest?, Option.some.injEq]
  by_cases none : quanta = 0
  · have half : (2 * 0 + quantaPerOne) / (2 * quantaPerOne) = 0 := by decide +kernel
    rw [none, half]
    cases negative <;> rfl
  · have side : decide (signed negative quanta < 0) = negative := by
      rw [Bool.eq_iff_iff, decide_eq_true_iff, signed_lt_zero_iff none]
    rw [side]

theorem nearestWhole_error (position : Int) :
    2 * (nearestWhole position * quantaPerOne - position).natAbs ≤ quantaPerOne := by
  have division := Nat.div_add_mod' (2 * position.natAbs + quantaPerOne) (2 * quantaPerOne)
  have remainder :=
    Nat.mod_lt (2 * position.natAbs + quantaPerOne) (Nat.mul_pos Nat.two_pos quantaPerOne_pos)
  rw [← Nat.mul_assoc, Nat.mul_comm _ 2, Nat.mul_assoc] at division
  unfold nearestWhole signed
  generalize (2 * position.natAbs + quantaPerOne) / (2 * quantaPerOne) = whole at *
  generalize (2 * position.natAbs + quantaPerOne) % (2 * quantaPerOne) = rest at *
  by_cases negative : position < 0
  · rw [if_pos (decide_eq_true negative), Int.neg_mul, ← Int.natCast_mul]
    generalize whole * quantaPerOne = quanta at *
    omega
  · rw [if_neg (by rwa [decide_eq_true_iff]), ← Int.natCast_mul]
    generalize whole * quantaPerOne = quanta at *
    omega

/-- Less than half a one away from a whole number, that number is the nearest. -/
theorem nearestWhole_eq {whole : Int}
    (near : 2 * (position - whole * quantaPerOne).natAbs < quantaPerOne) :
    nearestWhole position = whole := by
  have error := nearestWhole_error position
  have together : (nearestWhole position - whole).natAbs * quantaPerOne < 1 * quantaPerOne := by
    have product : (nearestWhole position - whole).natAbs * quantaPerOne =
        (nearestWhole position * quantaPerOne - whole * quantaPerOne).natAbs := by
      rw [← Int.sub_mul, Int.natAbs_mul, Int.natAbs_natCast]
    omega
  have none := Nat.lt_of_mul_lt_mul_right together
  omega

/-- Close to a whole number that is small enough, it is that number. -/
theorem nearestWhole_of_close {parts : Nat} {whole : Int}
    (close : Close parts position (whole * quantaPerOne))
    (small : 2 * parts * whole.natAbs < Nat.pow 2 56) :
    nearestWhole position = whole := by
  apply nearestWhole_eq
  unfold Close at close
  rw [Int.natAbs_mul, Int.natAbs_natCast] at close
  apply Nat.lt_of_mul_lt_mul_left (a := Nat.pow 2 56)
  calc Nat.pow 2 56 * (2 * (position - whole * quantaPerOne).natAbs)
      = 2 * (Nat.pow 2 56 * (position - whole * quantaPerOne).natAbs) := Nat.mul_left_comm _ _ _
    _ ≤ 2 * (parts * (whole.natAbs * quantaPerOne)) := Nat.mul_le_mul_left 2 close
    _ = 2 * parts * whole.natAbs * quantaPerOne := by simp only [Nat.mul_assoc]
    _ < Nat.pow 2 56 * quantaPerOne := Nat.mul_lt_mul_of_pos_right small quantaPerOne_pos

/-- Up to eight roundings away from a whole number, it is off by one part in `2 ^ 50`, and by no
whole one if that is less than a half. -/
theorem nearestWhole_near {whole : Int} (close : Close 64 position (whole * quantaPerOne)) :
    Nat.pow 2 50 * (nearestWhole position - whole).natAbs ≤ whole.natAbs + Nat.pow 2 49 := by
  have error := nearestWhole_error position
  unfold Close at close
  apply Nat.le_of_mul_le_mul_right _ quantaPerOne_pos
  have apart : (nearestWhole position * quantaPerOne - whole * quantaPerOne).natAbs =
      (nearestWhole position - whole).natAbs * quantaPerOne := by
    rw [← Int.sub_mul, Int.natAbs_mul, Int.natAbs_natCast]
  have size : (whole * quantaPerOne).natAbs = whole.natAbs * quantaPerOne := by
    rw [Int.natAbs_mul, Int.natAbs_natCast]
  rw [Nat.mul_assoc, Nat.add_mul, ← apart, ← size]
  simp only [Nat.pow_eq] at *
  omega

theorem nearestWhole_whole (whole : Int) : nearestWhole (whole * quantaPerOne) = whole := by
  apply nearestWhole_eq
  rw [Int.sub_self]
  exact quantaPerOne_pos

theorem nearestWhole_neg (position : Int) : nearestWhole (-position) = -nearestWhole position := by
  have half : (2 * 0 + quantaPerOne) / (2 * quantaPerOne) = 0 := by decide +kernel
  unfold nearestWhole signed
  rw [Int.natAbs_neg]
  rcases Int.lt_trichotomy position 0 with negative | rfl | positive
  · rw [if_neg (by rw [decide_eq_true_iff]; omega), if_pos (decide_eq_true negative), Int.neg_neg]
  · simp only [Int.neg_zero, Int.natAbs_zero, half, Int.natCast_zero, ite_self]
  · rw [if_pos (decide_eq_true (by omega)), if_neg (by rw [decide_eq_true_iff]; omega)]

theorem natAbs_nearestWhole_le {bound : Nat} (within : position.natAbs ≤ bound * quantaPerOne) :
    (nearestWhole position).natAbs ≤ bound := by
  have error := nearestWhole_error position
  have positive := quantaPerOne_pos
  apply Nat.le_of_not_lt
  intro beyond
  have further := Nat.mul_le_mul_right quantaPerOne (Nat.succ_le_of_lt beyond)
  have magnitude : (nearestWhole position * quantaPerOne).natAbs =
      (nearestWhole position).natAbs * quantaPerOne := by
    rw [Int.natAbs_mul, Int.natAbs_natCast]
  rw [Nat.succ_mul] at further
  omega

/-- From `2 ^ 52` on a number is the whole number nearest to it. -/
theorem nearestWhole_of_large (kept : Kept position.natAbs)
    (large : Nat.pow 2 52 * quantaPerOne ≤ position.natAbs) :
    nearestWhole position * quantaPerOne = position := by
  rcases exists_whole_of_kept kept large with ⟨whole, rfl⟩
  rw [nearestWhole_whole]

/-- The whole number nearest to a number is a number: the numbers that are not whole are small. -/
theorem exact_nearestWhole (kept : Kept position.natAbs) : Exact (nearestWhole position) := by
  by_cases large : Nat.pow 2 52 * quantaPerOne ≤ position.natAbs
  · rwa [Exact, nearestWhole_of_large kept large]
  · have small := natAbs_nearestWhole_le (Nat.le_of_not_le large)
    exact exact_of_le (Nat.le_trans small (by decide))

theorem le_nearestWhole {whole : Int} (reached : whole * quantaPerOne ≤ position) :
    whole ≤ nearestWhole position := by
  have error := nearestWhole_error position
  have positive := quantaPerOne_pos
  apply Int.not_lt.mp
  intro below
  have lower := Int.mul_le_mul_of_nonneg_right (show nearestWhole position + 1 ≤ whole from below)
    (Int.natCast_nonneg quantaPerOne)
  rw [Int.add_mul, Int.one_mul] at lower
  omega

/-! ## There -/

/-- The position in nanoseconds of a position in milliseconds. -/
def inNanoseconds (position : Int) : Int :=
  rounded (position * 1000000) 1

theorem kept_inNanoseconds (position : Int) : Kept (inNanoseconds position).natAbs :=
  kept_rounded _ 1

theorem inNanoseconds_neg (position : Int) :
    inNanoseconds (-position) = -inNanoseconds position := by
  rw [inNanoseconds, Int.neg_mul, rounded_neg _ Nat.one_pos, inNanoseconds]

theorem mul_million_standsAt (standing : x.StandsAt p) (finite : (x * 1000000).isFinite = true) :
    (x * 1000000).StandsAt (inNanoseconds p) := by
  have product := mul_standsAt_of_isFinite standing million_standsAt finite
  rwa [rounded_mul_scale] at product

end Binary64

namespace Duration

open Binary64

variable {milliseconds : Binary64} {p : Int} {d : Duration}

/-- The duration that a position in milliseconds becomes. -/
theorem balanced?_of_standsAt (standing : milliseconds.StandsAt p)
    (made : ofMilliseconds milliseconds = .ok d) :
    balanced? .millisecond (nearestWhole (inNanoseconds p)) = some d := by
  rcases ofMilliseconds_eq_ok_iff.mp made with ⟨_, count, nearest, found⟩
  have finite : (milliseconds * 1000000).isFinite = true := by
    cases product : milliseconds * 1000000 with
    | nan =>
        rw [product] at nearest
        contradiction
    | infinity =>
        rw [product] at nearest
        contradiction
    | finite => rfl
  rw [nearest?_of_standsAt (mul_million_standsAt standing finite)] at nearest
  rwa [Option.some.inj nearest]

/-- Short of the word of 128 bits, a number of milliseconds is a count of nanoseconds, and what is
too large is left to the limits of durations. -/
theorem ofMilliseconds_of_standsAt (standing : milliseconds.StandsAt p)
    (moderate : p.natAbs ≤ Nat.pow 2 80 * quantaPerOne) :
    ofMilliseconds milliseconds = ofNanoseconds (nearestWhole (inNanoseconds p)) := by
  have kept : Kept (Nat.pow 2 100 * quantaPerOne) := kept_power rfl
  have inside : Nat.pow 2 100 * quantaPerOne < quantaLimit := power_lt_quantaLimit rfl (by decide)
  have million : Nat.pow 2 80 * 1000000 ≤ Nat.pow 2 100 := by decide
  have product : (inNanoseconds p).natAbs ≤ Nat.pow 2 100 * quantaPerOne := by
    apply natAbs_rounded_le kept Nat.one_pos
    rw [Int.natAbs_mul, Nat.mul_one]
    apply Nat.le_trans (Nat.mul_le_mul_right _ moderate)
    rw [Nat.mul_right_comm]
    exact Nat.mul_le_mul_right _ million
  have multiplied := mul_standsAt standing million_standsAt
    (by rw [rounded_mul_scale]; exact Nat.lt_of_le_of_lt product inside)
  rw [rounded_mul_scale] at multiplied
  have counted : (nearestWhole (inNanoseconds p)).natAbs < Nat.pow 2 127 :=
    Nat.lt_of_le_of_lt (natAbs_nearestWhole_le product) (by decide)
  rw [ofMilliseconds, standing.1, nearest?_of_standsAt multiplied]
  exact if_pos counted

/-- Every length that was made from milliseconds is a number of the format. -/
theorem exact_length_of_ofMilliseconds (standing : milliseconds.StandsAt p)
    (made : ofMilliseconds milliseconds = .ok d) : Exact d.length := by
  rw [length_of_balanced? (balanced?_of_standsAt standing made)]
  exact exact_nearestWhole (kept_inNanoseconds p)

/-- Numbers of milliseconds from `9 * 2 ^ 46` on are beyond the limit. -/
theorem position_lt_of_ofMilliseconds (standing : milliseconds.StandsAt p)
    (made : ofMilliseconds milliseconds = .ok d) :
    p < (633318697598976 * quantaPerOne : Nat) := by
  apply Int.not_le.mp
  intro beyond
  have within := natAbs_lt_of_balanced? (balanced?_of_standsAt standing made)
  have kept : Kept (633318697598976 * 1000000 * quantaPerOne) := by decide +kernel
  have reached : ((633318697598976 * 1000000 * quantaPerOne : Nat) : Int) ≤ inNanoseconds p := by
    apply le_rounded (by rwa [Int.natAbs_natCast]) Nat.one_pos
    omega
  rw [Int.natCast_mul] at reached
  have count := le_nearestWhole reached
  omega

/-- So are their opposites. -/
theorem natAbs_position_lt_of_ofMilliseconds (standing : milliseconds.StandsAt p)
    (made : ofMilliseconds milliseconds = .ok d) : p.natAbs < 633318697598976 * quantaPerOne := by
  have above := position_lt_of_ofMilliseconds standing made
  rcases exists_ofMilliseconds_neg made with ⟨e, opposite, _⟩
  have below := position_lt_of_ofMilliseconds (neg_standsAt standing) opposite
  omega

end Duration
end Chronometry
