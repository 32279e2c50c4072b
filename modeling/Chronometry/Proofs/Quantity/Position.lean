import Chronometry.Proofs.Binary64.Closeness
import Chronometry.Quantity.Conversion

/-!
# The position of a converted magnitude

The sizes of the units of time are numbers in the format, so that a magnitude is converted with two
roundings: of the product with the size of its own unit, and of the quotient by the size of the
other one.
-/

namespace Chronometry
namespace Quantity

open Binary64

variable {unit target : Measure} {size targetSize parts : Nat} {x : Binary64}
  {p position count : Int}

theorem factor_standsAt (sized : unit.nanoseconds? = some size) :
    unit.factor.StandsAt (size * quantaPerOne : Nat) := by
  have every : ∀ unit ∈ Measure.all, ∀ size ∈ unit.nanoseconds?,
      unit.factor.StandsAt (size * quantaPerOne : Nat) := by decide +kernel
  exact every unit unit.mem_all size sized

/-! ## Conversion of plain magnitudes -/

theorem dimension_eq_of_nanoseconds? (sized : unit.nanoseconds? = some size)
    (targetSized : target.nanoseconds? = some targetSize) : unit.dimension = target.dimension := by
  have time : ∀ unit : Measure,
      ∀ size, unit.nanoseconds? = some size -> unit.dimension = .time := by
    intro unit size sized
    cases unit <;> first | rfl | contradiction
  rw [time unit size sized, time target targetSize targetSized]

theorem unit_eq_iff_of_nanoseconds? (sized : unit.nanoseconds? = some size)
    (targetSized : target.nanoseconds? = some targetSize) :
    unit = target ↔ size = targetSize := by
  constructor
  · rintro rfl
    exact Option.some.inj (sized.symm.trans targetSized)
  · rintro rfl
    have every : ∀ unit ∈ Measure.all, ∀ target ∈ Measure.all, unit.nanoseconds? ≠ none ->
        unit.nanoseconds? = target.nanoseconds? -> unit = target := by decide
    exact every unit unit.mem_all target target.mem_all (by simp [sized])
      (sized.trans targetSized.symm)

/-- Magnitudes are converted unless the two units have one size. -/
theorem magnitudeIn_plain (x : Binary64) (sized : unit.nanoseconds? = some size)
    (targetSized : target.nanoseconds? = some targetSize) :
    (plain x unit).magnitudeIn target =
      .ok (if size = targetSize then x else x * unit.factor / target.factor) := by
  have same := dimension_eq_of_nanoseconds? sized targetSized
  have unitIff := unit_eq_iff_of_nanoseconds? sized targetSized
  unfold magnitudeIn plain
  simp only [same, ne_eq, not_true_eq_false, if_false]
  by_cases one : unit = target
  · rw [if_pos one, if_pos (unitIff.mp one)]
  · rw [if_neg one, if_neg (mt unitIff.mpr one)]

/-! ## Positions -/

/-- The position of a magnitude that is converted from a unit of one size to a unit of another. -/
def convertedPosition (position : Int) (size targetSize : Nat) : Int :=
  rounded (rounded (position * size) 1) targetSize

theorem converted_standsAt_of_isFinite (standing : x.StandsAt p)
    (sized : unit.nanoseconds? = some size) (targetSized : target.nanoseconds? = some targetSize)
    (finite : (x * unit.factor / target.factor).isFinite = true) :
    (x * unit.factor / target.factor).StandsAt (convertedPosition p size targetSize) := by
  have divisor := factor_standsAt targetSized
  have product := mul_standsAt_of_isFinite standing (factor_standsAt sized)
    (isFinite_of_isFinite_div divisor finite)
  rw [rounded_mul_scale] at product
  have quotient := div_standsAt_of_isFinite product divisor
    (Nat.mul_pos (Measure.nanoseconds_pos targetSized) quantaPerOne_pos) finite
  rwa [rounded_div_scale] at quotient

theorem converted_standsAt (standing : x.StandsAt p) (sized : unit.nanoseconds? = some size)
    (targetSized : target.nanoseconds? = some targetSize)
    (productWithin : (rounded (p * size) 1).natAbs < quantaLimit)
    (quotientWithin : (convertedPosition p size targetSize).natAbs < quantaLimit) :
    (x * unit.factor / target.factor).StandsAt (convertedPosition p size targetSize) := by
  have product := mul_standsAt standing (factor_standsAt sized) (by rwa [rounded_mul_scale])
  rw [rounded_mul_scale] at product
  have quotient := div_standsAt product (factor_standsAt targetSized)
    (Nat.mul_pos (Measure.nanoseconds_pos targetSized) quantaPerOne_pos)
      (by rwa [rounded_div_scale])
  rwa [rounded_div_scale] at quotient

/-! ## Any two units of time -/

/-- The position of a magnitude in a unit of another size, or of the same one. -/
def positionIn (position : Int) (size targetSize : Nat) : Int :=
  if size = targetSize then position else convertedPosition position size targetSize

theorem positionIn_neg (position : Int) (size : Nat) (positive : 0 < targetSize) :
    positionIn (-position) size targetSize = -positionIn position size targetSize := by
  unfold positionIn convertedPosition
  split
  · rfl
  · rw [Int.neg_mul, rounded_neg _ Nat.one_pos, rounded_neg _ positive]

/-- A conversion adds two links to a chain. -/
theorem positionIn_close (close : Close parts (position * size) (count * quantaPerOne))
    (few : parts ≤ Nat.pow 2 52) (positive : 0 < targetSize)
    (moderate : targetSize ≤ Nat.pow 2 64) :
    Close (parts + 18) (positionIn position size targetSize * targetSize)
      (count * quantaPerOne) := by
  unfold positionIn
  split
  next same => exact same ▸ close.mono (by omega)
  next =>
    have product := close.rounding (by simp only [Nat.pow_eq] at *; omega)
    exact product.quotient (by simp only [Nat.pow_eq] at *; omega) positive moderate

/-- A magnitude of time is read in every unit of time, if it is not near the end of the format. -/
theorem magnitudeIn_standsAt {q : Quantity} (standing : q.value.StandsAt p)
    (sized : q.unit.nanoseconds? = some size) (targetSized : target.nanoseconds? = some targetSize)
    (moderate : (p * size).natAbs ≤ Nat.pow 2 200 * quantaPerOne) :
    ∃ magnitude,
      q.magnitudeIn target = .ok magnitude ∧
        magnitude.StandsAt (positionIn p size targetSize) := by
  have kept : Kept (Nat.pow 2 200 * quantaPerOne) := kept_power rfl
  have inside : Nat.pow 2 200 * quantaPerOne < quantaLimit := power_lt_quantaLimit rfl (by decide)
  have positive := Measure.nanoseconds_pos targetSized
  have product : (rounded (p * size) 1).natAbs ≤ Nat.pow 2 200 * quantaPerOne :=
    natAbs_rounded_le kept Nat.one_pos (by rwa [Nat.mul_one])
  have quotient : (convertedPosition p size targetSize).natAbs ≤ Nat.pow 2 200 * quantaPerOne :=
    natAbs_rounded_le kept positive (Nat.le_trans product (Nat.le_mul_of_pos_right _ positive))
  refine ⟨_, magnitudeIn_plain q.value sized targetSized, ?_⟩
  unfold positionIn
  split
  next => exact standing
  next =>
    exact converted_standsAt standing sized targetSized (Nat.lt_of_le_of_lt product inside)
      (Nat.lt_of_le_of_lt quotient inside)

end Quantity
end Chronometry
