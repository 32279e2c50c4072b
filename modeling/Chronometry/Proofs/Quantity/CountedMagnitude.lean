import Chronometry.Coercion
import Chronometry.Proofs.Binary64.Words
import Chronometry.Proofs.Quantity.Magnitude

/-!
# Magnitudes counted in nanoseconds

A quantity without an exact count is counted in one of two ways.  A whole magnitude is multiplied
exactly, and a magnitude with a fraction is multiplied in binary64 and cut off.  Only the first way
can fail, since a number that has a fraction is small, and it fails exactly when the product does
not fit a signed word of 128 bits.

Both ways are described here by one position on the line of quanta, the position at which the
magnitude arrives.  What is said about counts is said about that position: its sign is the sign of
the magnitude, and its whole part is the count.
-/

namespace Chronometry
namespace Quantity

open Binary64

/-- The position in nanoseconds at which a magnitude arrives: the exact product for a whole
magnitude, and the rounded one for a magnitude with a fraction. -/
def countedPosition (position : Int) (size : Nat) : Int :=
  if (quantaPerOne : Int) ∣ position then position * size else rounded (position * size) 1

/-- The nanoseconds of a magnitude at a position. -/
def countedNanoseconds (position : Int) (size : Nat) : Int :=
  (countedPosition position size).tdiv quantaPerOne

variable {value : Binary64} {unit : Measure} {size : Nat} {p : Int}

/-! ## The two ways -/

theorem quantaPerOne_ne_zero : (quantaPerOne : Int) ≠ 0 :=
  Int.natCast_ne_zero.mpr (Nat.ne_of_gt quantaPerOne_pos)

theorem countedNanoseconds_of_whole (whole : Int) (size : Nat) :
    countedNanoseconds (whole * quantaPerOne) size = whole * size := by
  rw [countedNanoseconds, countedPosition, if_pos (Int.dvd_mul_left _ _), Int.mul_right_comm,
    Int.mul_tdiv_cancel _ quantaPerOne_ne_zero]

/-- The count of the opposite magnitude is the opposite count. -/
theorem countedNanoseconds_neg (position : Int) (size : Nat) :
    countedNanoseconds (-position) size = -countedNanoseconds position size := by
  unfold countedNanoseconds countedPosition
  by_cases whole : (quantaPerOne : Int) ∣ position
  · rw [if_pos whole, if_pos (Int.dvd_neg.mpr whole), Int.neg_mul, Int.neg_tdiv]
  · rw [if_neg whole, if_neg (mt Int.dvd_neg.mp whole), Int.neg_mul, rounded_neg _ Nat.one_pos,
      Int.neg_tdiv]

/-- Numbers from `2 ^ 52` on have no fraction. -/
theorem natAbs_lt_of_fraction (kept : Kept p.natAbs) (fraction : ¬(quantaPerOne : Int) ∣ p) :
    p.natAbs < Nat.pow 2 52 * quantaPerOne := by
  apply Nat.lt_of_not_le
  intro large
  rcases exists_whole_of_kept kept large with ⟨whole, rfl⟩
  exact fraction (Int.dvd_mul_left _ _)

/-- A product with a fraction stays far away from the end of the word. -/
theorem natAbs_rounded_lt_of_fraction (sized : Sized size) (kept : Kept p.natAbs)
    (fraction : ¬(quantaPerOne : Int) ∣ p) :
    (rounded (p * size) 1).natAbs < Nat.pow 2 127 * quantaPerOne := by
  have keptBound : Kept (Nat.pow 2 52 * quantaPerOne * Nat.pow 2 64) := by
    rw [Nat.mul_right_comm]
    exact kept_power (show Nat.pow 2 52 * Nat.pow 2 64 = Nat.pow 2 116 by decide)
  have inside : Nat.pow 2 52 * quantaPerOne * Nat.pow 2 64 < Nat.pow 2 127 * quantaPerOne := by
    rw [Nat.mul_right_comm]
    exact Nat.mul_lt_mul_of_pos_right (by decide) quantaPerOne_pos
  have small := Nat.le_of_lt (natAbs_lt_of_fraction kept fraction)
  refine Nat.lt_of_le_of_lt (natAbs_rounded_le keptBound Nat.one_pos ?_) inside
  rw [Int.natAbs_mul, Int.natAbs_natCast, Nat.mul_one]
  exact Nat.mul_le_mul small sized.within

theorem natAbs_countedNanoseconds_lt_of_fraction (sized : Sized size) (kept : Kept p.natAbs)
    (fraction : ¬(quantaPerOne : Int) ∣ p) :
    (countedNanoseconds p size).natAbs < Nat.pow 2 127 := by
  rw [countedNanoseconds, countedPosition, if_neg fraction, Int.natAbs_tdiv, Int.natAbs_natCast]
  exact (Nat.div_lt_iff_lt_mul quantaPerOne_pos).mpr
    (natAbs_rounded_lt_of_fraction sized kept fraction)

theorem product_standsAt (standing : value.StandsAt p) (sized : Sized size)
    (within : (rounded (p * size) 1).natAbs < quantaLimit) :
    (value * ofInt size).StandsAt (rounded (p * size) 1) := by
  rw [← rounded_mul_scale] at within ⊢
  exact mul_standsAt standing (size_standsAt sized) within

/-- The magnitude of a quantity is counted at its position. -/
theorem nanosecondsOfMagnitude_of_standsAt (standing : value.StandsAt p) (sized : Sized size) :
    nanosecondsOfMagnitude value size = some (countedNanoseconds p size) := by
  by_cases whole : (quantaPerOne : Int) ∣ p
  · rcases whole with ⟨count, rfl⟩
    rw [Int.mul_comm] at standing ⊢
    have found := (whole?_eq_some_iff_of_standsAt standing).mpr rfl
    rw [nanosecondsOfMagnitude, found, countedNanoseconds_of_whole]
  · have noWhole : value.whole? = none := by
      rw [Option.eq_none_iff_forall_ne_some]
      intro count found
      rw [whole?_eq_some_iff_of_standsAt standing] at found
      exact whole (found ▸ Int.dvd_mul_left _ _)
    have small := natAbs_rounded_lt_of_fraction sized standing.kept whole
    have product := product_standsAt standing sized (Nat.lt_trans small word_lt_quantaLimit)
    rw [nanosecondsOfMagnitude, noWhole, countedNanoseconds, countedPosition, if_neg whole]
    exact truncated?_of_standsAt product

theorem toNanoseconds_of_magnitude (found : unit.nanoseconds? = some size)
    (finite : value.isFinite = true) {count : Int}
    (counted : nanosecondsOfMagnitude value size = some count) :
    (plain value unit).toNanoseconds =
      if count.natAbs < Nat.pow 2 127 then .ok count else .error (.coercion .countOverflow) := by
  simp only [toNanoseconds, plain, found, finite, counted, Bool.not_true,
    Bool.false_eq_true, if_false]

theorem toNanoseconds_of_standsAt (found : unit.nanoseconds? = some size)
    (standing : value.StandsAt p) :
    (plain value unit).toNanoseconds =
      if (countedNanoseconds p size).natAbs < Nat.pow 2 127 then .ok (countedNanoseconds p size)
      else .error (.coercion .countOverflow) :=
  toNanoseconds_of_magnitude found standing.1
    (nanosecondsOfMagnitude_of_standsAt standing (sized_of_nanoseconds? found))

theorem toNanoseconds_of_not_time (notTime : unit.nanoseconds? = none) :
    (plain value unit).toNanoseconds = .error (.coercion (.notTime unit)) := by
  simp only [toNanoseconds, plain, notTime]

theorem toNanoseconds_of_not_finite (found : unit.nanoseconds? = some size)
    (infinite : value.isFinite = false) :
    (plain value unit).toNanoseconds = .error (.coercion (.magnitudeNotFinite value)) := by
  simp only [toNanoseconds, plain, found, infinite, Bool.not_false, if_true]

/-! ## What is refused -/

/-- A magnitude has a count of nanoseconds in a unit: the unit is one of time, the magnitude is
finite, and the exact product of a whole magnitude fits a word of 128 bits. -/
def Countable (value : Binary64) (unit : Measure) : Prop :=
  ∃ size, unit.nanoseconds? = some size ∧ value.isFinite = true ∧
    ∀ whole, value.whole? = some whole -> (whole * size).natAbs < Nat.pow 2 127

theorem natAbs_countedNanoseconds_lt_iff (sized : Sized size) (standing : value.StandsAt p) :
    (countedNanoseconds p size).natAbs < Nat.pow 2 127 ↔
      ∀ whole, value.whole? = some whole -> (whole * size).natAbs < Nat.pow 2 127 := by
  by_cases whole : (quantaPerOne : Int) ∣ p
  · rcases whole with ⟨count, rfl⟩
    rw [Int.mul_comm] at standing ⊢
    rw [countedNanoseconds_of_whole, (whole?_eq_some_iff_of_standsAt standing).mpr rfl]
    simp only [Option.some.injEq, forall_eq']
  · refine iff_of_true (natAbs_countedNanoseconds_lt_of_fraction sized standing.kept whole) ?_
    intro count found
    rw [whole?_eq_some_iff_of_standsAt standing] at found
    exact absurd (found ▸ Int.dvd_mul_left _ _) whole

theorem countable_iff_of_standsAt (found : unit.nanoseconds? = some size)
    (standing : value.StandsAt p) :
    Countable value unit ↔ (countedNanoseconds p size).natAbs < Nat.pow 2 127 := by
  simp only [Countable, found, Option.some.injEq, exists_eq_left', standing.1, true_and]
  exact (natAbs_countedNanoseconds_lt_iff (sized_of_nanoseconds? found) standing).symm

/-- A count is answered where there is one, and everything else is a failed coercion. -/
theorem toNanoseconds_cases (value : Binary64) (unit : Measure) :
    (Countable value unit ∧ ∃ count, (plain value unit).toNanoseconds = .ok count) ∨
      (¬Countable value unit ∧
        ∃ fault, (plain value unit).toNanoseconds = .error (.coercion fault)) := by
  cases found : unit.nanoseconds? with
  | none =>
      refine Or.inr ⟨?_, _, toNanoseconds_of_not_time found⟩
      rintro ⟨size, sized, _⟩
      rw [found] at sized
      contradiction
  | some size =>
      by_cases finite : value.isFinite = true
      · rcases exists_standsAt finite with ⟨p, standing⟩
        rw [countable_iff_of_standsAt found standing, toNanoseconds_of_standsAt found standing]
        by_cases fits : (countedNanoseconds p size).natAbs < Nat.pow 2 127
        · exact Or.inl ⟨fits, _, if_pos fits⟩
        · exact Or.inr ⟨fits, _, if_neg fits⟩
      · refine Or.inr ⟨?_, _, toNanoseconds_of_not_finite found (Bool.eq_false_iff.mpr finite)⟩
        rintro ⟨_, _, isFinite, _⟩
        exact finite isFinite

/-- The opposite magnitude has the opposite count, or neither magnitude has one. -/
theorem toNanoseconds_neg_eq_ok_iff (value : Binary64) (unit : Measure) (count : Int) :
    (plain (-value) unit).toNanoseconds = .ok count ↔
      (plain value unit).toNanoseconds = .ok (-count) := by
  cases found : unit.nanoseconds? with
  | none => simp [toNanoseconds_of_not_time found]
  | some size =>
      by_cases finite : value.isFinite = true
      · rcases exists_standsAt finite with ⟨p, standing⟩
        rw [toNanoseconds_of_standsAt found standing, toNanoseconds_of_standsAt found (neg_standsAt
          standing), countedNanoseconds_neg, Int.natAbs_neg]
        split
        · rw [Except.ok.injEq, Except.ok.injEq]
          omega
        · simp
      · have infinite := Bool.eq_false_iff.mpr finite
        have opposite : (-value).isFinite = false := by rw [isFinite_neg, infinite]
        simp [toNanoseconds_of_not_finite found infinite,
          toNanoseconds_of_not_finite found opposite]

/-! ## Instants of counts -/

variable {q : Quantity} {dates : DateReader} {reference : Moment}

theorem toInstant_of_counted {count : Int} (counted : q.toNanoseconds = .ok count) :
    (Source.value (.quantity q)).toInstant dates reference = Instant.ofNanoseconds count := by
  change (do Instant.ofNanoseconds (← q.toNanoseconds)) = _
  rw [counted]
  rfl

theorem toInstant_of_refused {error : Error} (refused : q.toNanoseconds = .error error) :
    (Source.value (.quantity q)).toInstant dates reference = .error error := by
  change (do Instant.ofNanoseconds (← q.toNanoseconds)) = _
  rw [refused]
  rfl

/-- A quantity becomes the instant at its count. -/
theorem toInstant_eq_ok_iff (i : Instant) :
    (Source.value (.quantity q)).toInstant dates reference = .ok i ↔
      q.toNanoseconds = .ok i.nanoseconds := by
  cases counted : q.toNanoseconds with
  | error error => simp [toInstant_of_refused counted]
  | ok count =>
      rw [toInstant_of_counted counted, Instant.ofNanoseconds_eq_ok_iff,
        Except.ok.injEq, eq_comm]

end Quantity
end Chronometry
