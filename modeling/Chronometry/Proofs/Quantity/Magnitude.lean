import Chronometry.Proofs.Binary64.Closeness
import Chronometry.Proofs.Quantity.Projection

/-!
# The magnitude of a projection

The magnitude of a count of nanoseconds in a unit is computed from the whole units and the
remainder.  Four roundings take part: of the whole units, of the remainder, of its quotient by the
size of the unit, and of the sum.  Their errors together stay below one part in `2 ^ 51` of the
count, and none of them disturbs the order of two counts.

The order is not a matter of rounding alone, because the whole units of the greater count and the
fraction of the lesser one are rounded apart from each other.  As long as whole numbers are exact, a
fraction is at most the step to the next one.  Beyond `2 ^ 53` the numbers stand two apart, and a
fraction that is less than one leaves them where they are.
-/

namespace Chronometry
namespace Quantity

open Binary64

/-- The size of a unit of time is a number in the format, and a moderate one. -/
structure Sized (size : Nat) : Prop where
  positive : 0 < size
  kept : Kept (size * quantaPerOne)
  within : size ≤ Nat.pow 2 64

theorem sized_of_nanoseconds? {unit : Measure} {size : Nat}
    (sized : unit.nanoseconds? = some size) :
    Sized size := by
  have every : ∀ unit ∈ Measure.all, ∀ size ∈ unit.nanoseconds?,
      0 < size ∧ Kept (size * quantaPerOne) ∧ size ≤ Nat.pow 2 64 := by decide +kernel
  rcases every unit unit.mem_all size sized with ⟨positive, kept, within⟩
  exact ⟨positive, kept, within⟩

/-- The position of the quotient of a remainder by the size of its unit. -/
def fractionPosition (remainder : Int) (size : Nat) : Int :=
  rounded (rounded (remainder * quantaPerOne) 1 * quantaPerOne) (size * quantaPerOne)

/-- The position of the magnitude of a count. -/
def magnitudePosition (count : Int) (size : Nat) : Int :=
  rounded (rounded (count.tdiv size * quantaPerOne) 1 + fractionPosition (count.tmod size) size) 1

variable {size : Nat}

theorem Sized.scale_pos (sized : Sized size) : 0 < size * quantaPerOne :=
  Nat.mul_pos sized.positive quantaPerOne_pos

theorem Sized.rounded_eq (sized : Sized size) :
    rounded ((size : Int) * quantaPerOne) 1 = size * quantaPerOne := by
  apply rounded_of_kept
  rw [Int.natAbs_mul, Int.natAbs_natCast, Int.natAbs_natCast]
  exact sized.kept

/-! ## Fractions -/

theorem fractionPosition_mono (sized : Sized size) {first second : Int}
    (ordered : first ≤ second) :
    fractionPosition first size ≤ fractionPosition second size := by
  have scaled := Int.mul_le_mul_of_nonneg_right ordered (Int.natCast_nonneg quantaPerOne)
  have remainders := rounded_mono Nat.one_pos scaled
  exact rounded_mono sized.scale_pos
    (Int.mul_le_mul_of_nonneg_right remainders (Int.natCast_nonneg quantaPerOne))

theorem fractionPosition_zero (sized : Sized size) : fractionPosition 0 size = 0 := by
  rw [fractionPosition, Int.zero_mul, rounded_zero Nat.one_pos, Int.zero_mul,
    rounded_zero sized.scale_pos]

/-- The size itself is one unit. -/
theorem fractionPosition_size (sized : Sized size) : fractionPosition size size = quantaPerOne := by
  have kept : Kept (quantaPerOne : Int).natAbs := by
    rw [Int.natAbs_natCast]
    exact kept_quantaPerOne
  have one := rounded_mul kept sized.scale_pos
  rw [fractionPosition, sized.rounded_eq, Int.mul_comm]
  rwa [Int.natCast_mul] at one

theorem fractionPosition_nonneg (sized : Sized size) {remainder : Int}
    (nonnegative : 0 ≤ remainder) :
    0 ≤ fractionPosition remainder size := by
  have ordered := fractionPosition_mono sized nonnegative
  rwa [fractionPosition_zero sized] at ordered

theorem fractionPosition_le_one (sized : Sized size) {remainder : Int}
    (below : remainder ≤ size) :
    fractionPosition remainder size ≤ quantaPerOne := by
  have ordered := fractionPosition_mono sized below
  rwa [fractionPosition_size sized] at ordered

theorem fractionPosition_neg (sized : Sized size) (remainder : Int) :
    fractionPosition (-remainder) size = -fractionPosition remainder size := by
  rw [fractionPosition, Int.neg_mul, rounded_neg _ Nat.one_pos, Int.neg_mul,
    rounded_neg _ sized.scale_pos, fractionPosition]

theorem natAbs_fractionPosition_le (sized : Sized size) {remainder : Int}
    (below : remainder.natAbs ≤ size) :
    (fractionPosition remainder size).natAbs ≤ quantaPerOne := by
  have right := fractionPosition_le_one sized (show remainder ≤ size by omega)
  have left := fractionPosition_le_one sized (show -remainder ≤ size by omega)
  rw [fractionPosition_neg sized] at left
  omega

theorem natAbs_tmod_le (sized : Sized size) (count : Int) : (count.tmod size).natAbs ≤ size := by
  rw [Int.natAbs_tmod, Int.natAbs_natCast]
  exact Nat.le_of_lt (Nat.mod_lt _ sized.positive)

/-! ## The number and its position -/

theorem Sized.le_word (sized : Sized size) : size ≤ Nat.pow 2 127 :=
  Nat.le_trans sized.within (Nat.pow_le_pow_right (by decide) (by decide))

theorem size_standsAt (sized : Sized size) : (ofInt size).StandsAt (size * quantaPerOne : Nat) := by
  have standing :=
    ofInt_standsAt_of_isFinite (isFinite_ofInt (show (size : Int).natAbs ≤ _ from sized.le_word))
  rwa [sized.rounded_eq, ← Int.natCast_mul] at standing

/-- Whole numbers of 128 bits do not grow beyond them by rounding. -/
theorem natAbs_rounded_le_word {value : Int} (small : value.natAbs ≤ Nat.pow 2 127) :
    (rounded (value * quantaPerOne) 1).natAbs ≤ Nat.pow 2 127 * quantaPerOne := by
  apply natAbs_rounded_le kept_word Nat.one_pos
  rw [Int.natAbs_mul, Int.natAbs_natCast, Nat.mul_one]
  exact Nat.mul_le_mul_right _ small

/-- Counts of 128 bits have a finite magnitude, and it stands where its four roundings put it. -/
theorem magnitude_standsAt (sized : Sized size) {count : Int}
    (within : count.natAbs ≤ Nat.pow 2 127) :
    (magnitudeOfNanoseconds count size).StandsAt (magnitudePosition count size) := by
  have wholeSmall : (count.tdiv size).natAbs ≤ Nat.pow 2 127 := by
    rw [Int.natAbs_tdiv]
    exact Nat.le_trans (Nat.div_le_self _ _) within
  have remainderSmall := Nat.le_trans (natAbs_tmod_le sized count) sized.le_word
  have whole := ofInt_standsAt_of_isFinite (isFinite_ofInt wholeSmall)
  have remainder := ofInt_standsAt_of_isFinite (isFinite_ofInt remainderSmall)
  have fractionBound := natAbs_fractionPosition_le sized (natAbs_tmod_le sized count)
  have oneBelow : quantaPerOne ≤ Nat.pow 2 127 * quantaPerOne :=
    Nat.le_mul_of_pos_left quantaPerOne (by decide)
  have fraction := div_standsAt remainder (size_standsAt sized) sized.scale_pos
    (Nat.lt_of_le_of_lt (Nat.le_trans fractionBound oneBelow) word_lt_quantaLimit)
  -- The sum of the two numbers has at most one bit more than a word.
  have wholeBound := natAbs_rounded_le_word wholeSmall
  have doubled : Nat.pow 2 128 * quantaPerOne =
      Nat.pow 2 127 * quantaPerOne + Nat.pow 2 127 * quantaPerOne := by
    rw [← Nat.add_mul]
  have sum : (magnitudePosition count size).natAbs ≤ Nat.pow 2 128 * quantaPerOne := by
    apply natAbs_rounded_le (kept_power rfl) Nat.one_pos
    omega
  exact add_standsAt whole fraction (Nat.lt_of_le_of_lt sum (power_lt_quantaLimit rfl (by decide)))

theorem magnitudePosition_neg (sized : Sized size) (count : Int) :
    magnitudePosition (-count) size = -magnitudePosition count size := by
  rw [magnitudePosition, Int.neg_tdiv, Int.neg_tmod, Int.neg_mul, rounded_neg _ Nat.one_pos,
    fractionPosition_neg sized, ← Int.neg_add, rounded_neg _ Nat.one_pos, magnitudePosition]

/-! ## Order -/

/-- Beyond `2 ^ 53` the numbers stand two apart, and less than one does not move them. -/
theorem rounded_add_of_lt_one {whole fraction : Int} (kept : Kept whole.natAbs)
    (large : (Nat.pow 2 53 * quantaPerOne : Nat) ≤ whole) (nonnegative : 0 ≤ fraction)
    (less : fraction < quantaPerOne) :
    rounded (whole + fraction) 1 = whole := by
  have grid : ∃ shift,
      Nat.pow 2 (52 + shift) = Nat.pow 2 53 * quantaPerOne ∧ Nat.pow 2 shift = 2 * quantaPerOne :=
    ⟨1075, by decide +kernel, by decide +kernel⟩
  rcases grid with ⟨shift, start, spacing⟩
  apply rounded_eq_of_near shift kept Nat.one_pos
  · omega
  · omega
  · rw [spacing]
    omega

/-- While whole numbers are exact, a fraction goes no further than the next one. -/
theorem rounded_add_le_succ {whole fraction : Int} (nonnegative : 0 ≤ whole)
    (small : whole < Nat.pow 2 53) (atMostOne : fraction ≤ quantaPerOne) :
    rounded (rounded (whole * quantaPerOne) 1 + fraction) 1 ≤ (whole + 1) * quantaPerOne := by
  have next : (whole + 1) * quantaPerOne = whole * quantaPerOne + quantaPerOne := by
    rw [Int.add_mul, Int.one_mul]
  rw [rounded_of_kept (kept_mul_quantaPerOne nonnegative (Int.le_of_lt small))]
  exact rounded_le (kept_mul_quantaPerOne (by omega) small) Nat.one_pos (by omega)

/-- A magnitude is not less than its whole units. -/
theorem whole_le_magnitudePosition (sized : Sized size) {count : Int} (nonnegative : 0 ≤ count) :
    rounded (count.tdiv size * quantaPerOne) 1 ≤ magnitudePosition count size := by
  have fraction := fractionPosition_nonneg sized (Int.tmod_nonneg size nonnegative)
  exact le_rounded (kept_rounded _ 1) Nat.one_pos (by omega)

/-- The whole units of a count and its fraction do not go beyond a greater number of whole units. -/
theorem magnitudePosition_le_whole (sized : Sized size) {count whole : Int}
    (nonnegative : 0 ≤ count) (less : count.tdiv size < whole)
    (fine : count.tdiv size < Nat.pow 2 53 ∨ fractionPosition (size - 1) size < quantaPerOne) :
    magnitudePosition count size ≤ rounded (whole * quantaPerOne) 1 := by
  have positive : (0 : Int) < size := Int.natCast_pos.mpr sized.positive
  have wholeNonneg : 0 ≤ count.tdiv size := Int.tdiv_nonneg nonnegative (Int.le_of_lt positive)
  have below : count.tmod size < size := Int.tmod_lt_of_pos _ positive
  by_cases small : count.tdiv size < Nat.pow 2 53
  · have sum :=
      rounded_add_le_succ wholeNonneg small (fractionPosition_le_one sized (Int.le_of_lt below))
    have reached : (count.tdiv size + 1) * quantaPerOne ≤ rounded (whole * quantaPerOne) 1 := by
      apply le_rounded (kept_mul_quantaPerOne (by omega) small) Nat.one_pos
      rw [Int.natCast_one, Int.mul_one]
      exact Int.mul_le_mul_of_nonneg_right less (Int.natCast_nonneg quantaPerOne)
    exact Int.le_trans sum reached
  · have last := fractionPosition_mono sized (show count.tmod size ≤ size - 1 by omega)
    have large : ((Nat.pow 2 53 * quantaPerOne : Nat) : Int) ≤
        rounded (count.tdiv size * quantaPerOne) 1 := by
      apply le_rounded (by rw [Int.natAbs_natCast]; exact kept_of_le (Nat.le_refl _)) Nat.one_pos
      rw [Int.natCast_mul, Int.natCast_one, Int.mul_one]
      exact Int.mul_le_mul_of_nonneg_right (Int.not_lt.mp small) (Int.natCast_nonneg quantaPerOne)
    have fraction := fractionPosition_nonneg sized (Int.tmod_nonneg size nonnegative)
    rw [magnitudePosition, rounded_add_of_lt_one (kept_rounded _ 1) large fraction
      (Int.lt_of_le_of_lt last (fine.resolve_left small))]
    exact rounded_mono Nat.one_pos
      (Int.mul_le_mul_of_nonneg_right (Int.le_of_lt less) (Int.natCast_nonneg quantaPerOne))

/-- Counts with the same whole units are ordered by their remainders. -/
theorem magnitudePosition_mono_of_same_whole (sized : Sized size) {first second : Int}
    (ordered : first ≤ second) (same : first.tdiv size = second.tdiv size) :
    magnitudePosition first size ≤ magnitudePosition second size := by
  have firstSplit := Int.mul_tdiv_add_tmod first size
  have secondSplit := Int.mul_tdiv_add_tmod second size
  rw [same] at firstSplit
  have fractions := fractionPosition_mono sized (show first.tmod size ≤ second.tmod size by omega)
  apply rounded_mono Nat.one_pos
  rw [same]
  omega

theorem magnitudePosition_mono_of_nonneg (sized : Sized size) {first second : Int}
    (nonnegative : 0 ≤ first) (ordered : first ≤ second)
    (fine : first.tdiv size < Nat.pow 2 53 ∨ fractionPosition (size - 1) size < quantaPerOne) :
    magnitudePosition first size ≤ magnitudePosition second size := by
  rcases Int.lt_or_eq_of_le (Int.tdiv_le_tdiv (Int.natCast_pos.mpr sized.positive) ordered)
    with less | same
  · exact Int.le_trans (magnitudePosition_le_whole sized nonnegative less fine)
      (whole_le_magnitudePosition sized (Int.le_trans nonnegative ordered))
  · exact magnitudePosition_mono_of_same_whole sized ordered same

theorem magnitudePosition_zero (sized : Sized size) : magnitudePosition 0 size = 0 := by
  rw [magnitudePosition, Int.zero_tdiv, Int.zero_tmod, Int.zero_mul, rounded_zero Nat.one_pos,
    fractionPosition_zero sized, Int.add_zero, rounded_zero Nat.one_pos]

/-- Among the units of time, those in which the whole units of an instant can exceed `2 ^ 53` are so
small that the last fraction is less than one. -/
theorem fine_of_nanoseconds? {unit : Measure} (found : unit.nanoseconds? = some size) {count : Int}
    (within : count.natAbs < Nat.pow 2 69) :
    count.tdiv size < Nat.pow 2 53 ∨ fractionPosition (size - 1) size < quantaPerOne := by
  have every : ∀ unit ∈ Measure.all, ∀ size ∈ unit.nanoseconds?,
      Nat.pow 2 16 ≤ size ∨ fractionPosition (size - 1) size < quantaPerOne := by decide +kernel
  rcases every unit unit.mem_all size found with coarse | fine
  · left
    have quotient : count.natAbs / size < Nat.pow 2 53 := by
      apply Nat.div_lt_of_lt_mul
      exact Nat.lt_of_lt_of_le within (Nat.mul_le_mul_right (Nat.pow 2 53) coarse)
    have magnitude := Int.natAbs_tdiv count size
    rw [Int.natAbs_natCast] at magnitude
    change _ = count.natAbs / size at magnitude
    omega
  · exact Or.inr fine

/-- The magnitudes of instants are in the order of the instants. -/
theorem magnitudePosition_mono {unit : Measure} (found : unit.nanoseconds? = some size)
    {first second : Int} (firstWithin : first.natAbs < Nat.pow 2 69)
    (secondWithin : second.natAbs < Nat.pow 2 69) (ordered : first ≤ second) :
    magnitudePosition first size ≤ magnitudePosition second size := by
  have sized := sized_of_nanoseconds? found
  have fromZero : ∀ count : Int, 0 ≤ count -> 0 ≤ magnitudePosition count size := by
    intro count nonnegative
    have later := magnitudePosition_mono_of_nonneg sized (Int.le_refl 0) nonnegative
      (fine_of_nanoseconds? found (by decide))
    rwa [magnitudePosition_zero sized] at later
  rcases Int.le_total 0 first with nonnegative | negative
  · exact magnitudePosition_mono_of_nonneg sized nonnegative ordered
      (fine_of_nanoseconds? found firstWithin)
  · rcases Int.le_total 0 second with after | before
    · have left := fromZero (-first) (by omega)
      have right := fromZero second after
      rw [magnitudePosition_neg sized] at left
      omega
    · have mirrored := magnitudePosition_mono_of_nonneg sized (show 0 ≤ -second by omega)
        (show -second ≤ -first by omega) (fine_of_nanoseconds? found (by omega))
      rw [magnitudePosition_neg sized, magnitudePosition_neg sized] at mirrored
      omega

/-! ## Accuracy -/

/-- The fraction errs by the rounding of the quotient. -/
theorem fractionPosition_error (sized : Sized size) (remainder : Int) :
    Nat.pow 2 53 *
        (fractionPosition remainder size * size - rounded (remainder * quantaPerOne) 1).natAbs ≤
      (rounded (remainder * quantaPerOne) 1).natAbs := by
  have substantial := (rounded_close (remainder * quantaPerOne)).substantial (by decide)
  rw [fractionPosition, rounded_div_scale]
  exact close_eight_iff.mp (quotient_close substantial sized.positive sized.within)

theorem error_mul {approximate exact bound : Int} {precision : Nat} (size : Nat)
    (error : precision * (approximate - exact).natAbs ≤ bound.natAbs) :
    precision * (approximate * size - exact * size).natAbs ≤ (bound * size).natAbs := by
  rw [← Int.sub_mul, Int.natAbs_mul, Int.natAbs_mul, Int.natAbs_natCast, ← Nat.mul_assoc]
  exact Nat.mul_le_mul_right size error

/-- The whole units of a count and the remainder, in quanta. -/
theorem whole_add_rest (count : Int) (size : Nat) :
    count * quantaPerOne =
      count.tdiv size * quantaPerOne * size + count.tmod size * quantaPerOne := by
  calc count * quantaPerOne = (size * count.tdiv size + count.tmod size) * quantaPerOne := by
        rw [Int.mul_tdiv_add_tmod]
    _ = count.tdiv size * quantaPerOne * size + count.tmod size * quantaPerOne := by
        rw [Int.add_mul, Int.mul_assoc, Int.mul_comm (size : Int)]

/-- The four errors of a magnitude are small against the count that it is computed from. -/
theorem magnitudePosition_error_of_nonneg (sized : Sized size) {count : Int}
    (nonnegative : 0 ≤ count) :
    Nat.pow 2 51 * (magnitudePosition count size * size - count * quantaPerOne).natAbs ≤
      (count * quantaPerOne).natAbs := by
  have positive : (0 : Int) < size := Int.natCast_pos.mpr sized.positive
  have wholeNonneg : 0 ≤ count.tdiv size * quantaPerOne * size :=
    Int.mul_nonneg (Int.mul_nonneg (Int.tdiv_nonneg nonnegative (Int.le_of_lt positive))
      (Int.natCast_nonneg _)) (Int.le_of_lt positive)
  have restNonneg : 0 ≤ count.tmod size * quantaPerOne :=
    Int.mul_nonneg (Int.tmod_nonneg _ nonnegative) (Int.natCast_nonneg _)
  have wholeError := error_mul size (rounded_one_error (count.tdiv size * quantaPerOne))
  have restError := rounded_one_error (count.tmod size * quantaPerOne)
  have fractionError := fractionPosition_error sized (count.tmod size)
  have sumError := error_mul size (rounded_one_error
    (rounded (count.tdiv size * quantaPerOne) 1 + fractionPosition (count.tmod size) size))
  rw [Int.add_mul] at sumError
  rw [whole_add_rest count size]
  change Nat.pow 2 51 * (rounded _ 1 * size - _).natAbs ≤ _
  generalize rounded (rounded (count.tdiv size * quantaPerOne) 1 +
    fractionPosition (count.tmod size) size) 1 * size = sum at *
  generalize rounded (count.tdiv size * quantaPerOne) 1 * size = whole at *
  generalize fractionPosition (count.tmod size) size * size = fraction at *
  generalize rounded (count.tmod size * quantaPerOne) 1 = rest at *
  simp only [Nat.pow_eq] at *
  omega

theorem magnitudePosition_error (sized : Sized size) (count : Int) :
    Nat.pow 2 51 * (magnitudePosition count size * size - count * quantaPerOne).natAbs ≤
      (count * quantaPerOne).natAbs := by
  rcases Int.le_total 0 count with nonnegative | negative
  · exact magnitudePosition_error_of_nonneg sized nonnegative
  · have mirrored := magnitudePosition_error_of_nonneg sized (show 0 ≤ -count by omega)
    rw [magnitudePosition_neg sized, Int.neg_mul, Int.neg_mul, Int.natAbs_neg] at mirrored
    simp only [Nat.pow_eq] at *
    omega

/-- Counts with one magnitude lie close together, as seen from the epoch. -/
theorem distance_le_of_magnitudePosition_eq (sized : Sized size) {first second : Int}
    (same : magnitudePosition first size = magnitudePosition second size) :
    Nat.pow 2 51 * (first - second).natAbs ≤ first.natAbs + second.natAbs := by
  have firstError := magnitudePosition_error sized first
  have secondError := magnitudePosition_error sized second
  rw [same] at firstError
  have apart : (first * quantaPerOne - second * quantaPerOne).natAbs =
      (first - second).natAbs * quantaPerOne := by
    rw [← Int.sub_mul, Int.natAbs_mul, Int.natAbs_natCast]
  have firstSize : (first * quantaPerOne).natAbs = first.natAbs * quantaPerOne := by
    rw [Int.natAbs_mul, Int.natAbs_natCast]
  have secondSize : (second * quantaPerOne).natAbs = second.natAbs * quantaPerOne := by
    rw [Int.natAbs_mul, Int.natAbs_natCast]
  apply Nat.le_of_mul_le_mul_right _ quantaPerOne_pos
  rw [Nat.mul_assoc, Nat.add_mul, ← apart, ← firstSize, ← secondSize]
  simp only [Nat.pow_eq] at *
  omega

end Quantity
end Chronometry
