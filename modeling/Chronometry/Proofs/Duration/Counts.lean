import Chronometry.DurationText.Spelling
import Chronometry.Proofs.Binary64.Closeness
import Chronometry.Proofs.Binary64.Million
import Chronometry.Proofs.Duration.Nanoseconds
import Chronometry.Proofs.Quantity.Position

/-!
# The positions of counts

A count of nanoseconds is divided by a million to be a number of milliseconds.  A count of units is
tagged with its unit instead, and converted, unless the unit is the millisecond.  Either way the
count is rounded to a number first.  How far the position in nanoseconds has moved from the exact
count is bounded by the number of roundings, and whole milliseconds that are exact numbers do not
move at all.
-/

namespace Chronometry

open Binary64

/-! ## Positions -/

/-- The position of a count as a binary64 number. -/
def wholePosition (count : Nat) : Int :=
  rounded (count * quantaPerOne : Nat) 1

theorem wholePosition_of_kept {count : Nat} (kept : Kept (count * quantaPerOne)) :
    wholePosition count = (count * quantaPerOne : Nat) :=
  rounded_of_kept (by rwa [Int.natAbs_natCast])

theorem wholePosition_close (count : Nat) :
    Close 8 (wholePosition count) (count * quantaPerOne : Nat) :=
  rounded_close _

theorem ofInt_standsAt_wholePosition {count : Nat} (finite : (ofInt count).isFinite = true) :
    (ofInt count).StandsAt (wholePosition count) := by
  have standing := ofInt_standsAt_of_isFinite finite
  rwa [← Int.natCast_mul] at standing

/-- Small counts stand where they belong. -/
theorem ofInt_standsAt_of_le {count : Nat} (small : count ≤ Nat.pow 2 53) :
    (ofInt count).StandsAt (count * quantaPerOne : Nat) := by
  have finite : (ofInt count).isFinite = true := by
    apply isFinite_ofInt
    rw [Int.natAbs_natCast]
    exact Nat.le_trans small (Nat.pow_le_pow_right (by decide) (by decide))
  have standing := ofInt_standsAt_wholePosition finite
  rwa [wholePosition_of_kept (kept_of_le small)] at standing

/-- A count that is exact, or counted in ones, is multiplied as if it had never been rounded. -/
theorem rounded_wholePosition_mul {count : Nat} (size : Nat)
    (exact : size = 1 ∨ Kept (count * quantaPerOne)) :
    rounded (wholePosition count * size) 1 = wholePosition (count * size) := by
  rcases exact with rfl | kept
  · rw [Int.natCast_one, Int.mul_one, Nat.mul_one]
    exact rounded_of_kept (kept_rounded _ 1)
  · rw [wholePosition_of_kept kept, wholePosition, ← Int.natCast_mul, Nat.mul_right_comm]

namespace Quantity

variable {unit : Measure} {count size : Nat} {milliseconds : Binary64}

/-- The position of a tagged count in milliseconds. -/
def taggedPosition (count size : Nat) : Int :=
  if size = 1000000 then wholePosition count
    else convertedPosition (wholePosition count) size 1000000

theorem tagged_standsAt (sized : unit.nanoseconds? = some size)
    (converted : (plain (ofInt count) unit).magnitudeIn .millisecond = .ok milliseconds)
    (finite : milliseconds.isFinite = true) :
    milliseconds.StandsAt (taggedPosition count size) := by
  rw [magnitudeIn_plain _ sized rfl] at converted
  obtain rfl := Except.ok.inj converted
  unfold taggedPosition
  by_cases same : size = 1000000
  · rw [if_pos same] at finite ⊢
    rw [if_pos same]
    exact ofInt_standsAt_wholePosition finite
  · rw [if_neg same] at finite ⊢
    rw [if_neg same]
    have divided := isFinite_of_isFinite_div (factor_standsAt rfl) finite
    have multiplied := isFinite_of_isFinite_mul (factor_standsAt sized) divided
    exact converted_standsAt_of_isFinite (ofInt_standsAt_wholePosition multiplied) sized rfl finite

end Quantity

namespace DurationText

variable {count : Nat}

/-- The position of nanoseconds in milliseconds. -/
def countedPosition (nanoseconds : Nat) : Int :=
  rounded (wholePosition nanoseconds) 1000000

theorem millisecondsOf_standsAt {nanoseconds : Nat}
    (finite : (millisecondsOf nanoseconds).isFinite = true) :
    (millisecondsOf nanoseconds).StandsAt (countedPosition nanoseconds) := by
  have whole := ofInt_standsAt_wholePosition (isFinite_of_isFinite_div million_standsAt finite)
  have quotient := div_standsAt_of_isFinite whole million_standsAt (by decide +kernel) finite
  rwa [rounded_div_scale] at quotient

/-- Nanoseconds of any length that can be counted are a number of milliseconds. -/
theorem isFinite_millisecondsOf {nanoseconds : Nat} (within : nanoseconds ≤ Nat.pow 2 127) :
    (millisecondsOf nanoseconds).isFinite = true := by
  have whole : (wholePosition nanoseconds).natAbs ≤ Nat.pow 2 127 * quantaPerOne := by
    apply natAbs_rounded_le kept_word Nat.one_pos
    rw [Int.natAbs_natCast, Nat.mul_one]
    exact Nat.mul_le_mul_right _ within
  have quotient : (countedPosition nanoseconds).natAbs ≤ Nat.pow 2 127 * quantaPerOne :=
    natAbs_rounded_le kept_word (by decide)
      (Nat.le_trans whole (Nat.le_mul_of_pos_right _ (by decide)))
  have counted : (ofInt nanoseconds).isFinite = true := isFinite_ofInt within
  have standing := ofInt_standsAt_wholePosition counted
  refine (div_standsAt standing million_standsAt (by decide +kernel) ?_).1
  rw [rounded_div_scale]
  exact Nat.lt_of_le_of_lt quotient word_lt_quantaLimit

theorem countedPosition_close (nanoseconds : Nat) :
    Close 17 (countedPosition nanoseconds * 1000000) (nanoseconds * quantaPerOne : Nat) := by
  have counted := wholePosition_close nanoseconds
  rw [Int.natCast_mul] at counted ⊢
  exact counted.quotient (by decide) (by decide) (by decide)

theorem inNanoseconds_countedPosition_close (nanoseconds : Nat) :
    Close 26 (inNanoseconds (countedPosition nanoseconds)) (nanoseconds * quantaPerOne : Nat) :=
  (countedPosition_close nanoseconds).rounding (by decide)

/-! ## Whole milliseconds -/

theorem natCast_million_mul (milliseconds : Nat) :
    ((milliseconds * 1000000 * quantaPerOne : Nat) : Int) =
      (milliseconds * quantaPerOne : Nat) * (1000000 : Nat) := by
  rw [Nat.mul_right_comm, Int.natCast_mul]

/-- Whole milliseconds that are exact in nanoseconds are exact after the division. -/
theorem countedPosition_of_kept {milliseconds : Nat} (small : milliseconds ≤ Nat.pow 2 53)
    (kept : Kept (milliseconds * 1000000 * quantaPerOne)) :
    countedPosition (milliseconds * 1000000) = (milliseconds * quantaPerOne : Nat) := by
  have whole : Kept ((milliseconds * quantaPerOne : Nat) : Int).natAbs := kept_of_le small
  rw [countedPosition, wholePosition_of_kept kept, natCast_million_mul]
  exact rounded_mul whole (by decide)

theorem inNanoseconds_countedPosition_of_kept {milliseconds : Nat}
    (small : milliseconds ≤ Nat.pow 2 53) (kept : Kept (milliseconds * 1000000 * quantaPerOne)) :
    inNanoseconds (countedPosition (milliseconds * 1000000)) =
      (milliseconds * 1000000 * quantaPerOne : Nat) := by
  rw [countedPosition_of_kept small kept, inNanoseconds]
  change rounded ((milliseconds * quantaPerOne : Nat) * (1000000 : Nat)) 1 = _
  rw [← natCast_million_mul]
  apply rounded_of_kept
  rw [Int.natAbs_natCast]
  exact kept

/-- A position in nanoseconds at which a count of units arrives.  It is close to the exact count,
and it is the exact count if the unit is whole milliseconds and the count of nanoseconds is a
number. -/
structure Reaches (count size : Nat) (position : Int) : Prop where
  close : Close 26 position (count * size * quantaPerOne : Nat)
  exact : Kept (count * size * quantaPerOne) -> 1000000 ∣ size ->
    position = (count * size * quantaPerOne : Nat)

theorem reaches_countedPosition {count size : Nat}
    (small : 1000000 ∣ size -> count * size ≤ Nat.pow 2 53 * 1000000) :
    Reaches count size (inNanoseconds (countedPosition (count * size))) where
  close := inNanoseconds_countedPosition_close _
  exact kept whole := by
    have few := small whole
    rcases whole with ⟨factor, rfl⟩
    rw [Nat.mul_comm 1000000, ← Nat.mul_assoc] at kept few ⊢
    exact inNanoseconds_countedPosition_of_kept (Nat.le_of_mul_le_mul_right few (by decide)) kept

theorem reaches_wholePosition (count : Nat) :
    Reaches count 1000000 (wholePosition (count * 1000000)) where
  close := (wholePosition_close _).mono (by decide)
  exact kept _ := wholePosition_of_kept kept

/-! ## Two ways -/

/-- The two ways are one, unless there is nothing to convert. -/
theorem taggedPosition_eq (count size : Nat) (exact : size = 1 ∨ Kept (count * quantaPerOne))
    (other : size ≠ 1000000) :
    Quantity.taggedPosition count size = countedPosition (count * size) := by
  rw [Quantity.taggedPosition, if_neg other, Quantity.convertedPosition,
    rounded_wholePosition_mul size exact, countedPosition]

/-- Without a conversion, the position in nanoseconds is that of the exact count. -/
theorem inNanoseconds_taggedPosition_of_milliseconds (small : count ≤ Nat.pow 2 53) :
    inNanoseconds (Quantity.taggedPosition count 1000000) = wholePosition (count * 1000000) := by
  have product := rounded_wholePosition_mul 1000000 (Or.inr (kept_of_le small))
  rw [Quantity.taggedPosition, if_pos rfl]
  exact product

/-- The quotient by a million is undone by the product. -/
theorem inNanoseconds_countedPosition_of_milliseconds (fits : count * 1000000 < Nat.pow 2 64) :
    inNanoseconds (countedPosition (count * 1000000)) = wholePosition (count * 1000000) := by
  have undone := million_undone fits
  rw [inNanoseconds, countedPosition, wholePosition, Nat.mul_right_comm, Int.natCast_mul]
  exact undone

/-! ## The limit -/

theorem le_wholePosition_mul {bound size : Nat} (coarse : 1000000 ≤ size)
    (small : bound ≤ Nat.pow 2 53) (reached : bound * 1000000 ≤ count * size) :
    ((bound * 1000000 * quantaPerOne : Nat) : Int) ≤ wholePosition count * size := by
  by_cases exact : count ≤ Nat.pow 2 53
  · rw [wholePosition_of_kept (kept_of_le exact), ← Int.natCast_mul, Nat.mul_right_comm count]
    exact Int.ofNat_le.mpr (Nat.mul_le_mul_right _ reached)
  · have large : ((Nat.pow 2 53 * quantaPerOne : Nat) : Int) ≤ wholePosition count := by
      unfold wholePosition
      apply le_rounded (by rw [Int.natAbs_natCast]; exact kept_of_le (Nat.le_refl _)) Nat.one_pos
      rw [Int.natCast_one, Int.mul_one]
      exact Int.ofNat_le.mpr (Nat.mul_le_mul_right _ (Nat.le_of_not_le exact))
    have product := Int.mul_le_mul large (Int.ofNat_le.mpr coarse) (Int.natCast_nonneg _)
      (Int.le_trans (Int.natCast_nonneg _) large)
    apply Int.le_trans _ product
    rw [← Int.natCast_mul, Nat.mul_right_comm (Nat.pow 2 53)]
    exact Int.ofNat_le.mpr (Nat.mul_le_mul_right _ (Nat.mul_le_mul_right _ small))

/-- The limit of durations is a limit of the counts, in milliseconds and coarser units. -/
theorem count_lt_of_taggedPosition {size : Nat} (coarse : 1000000 ≤ size)
    (below : Quantity.taggedPosition count size < (633318697598976 * quantaPerOne : Nat)) :
    count * size < 633318697598976 * 1000000 := by
  apply Nat.lt_of_not_le
  intro reached
  have product := le_wholePosition_mul coarse (by decide) reached
  have split := natCast_million_mul 633318697598976
  have keptBound : Kept ((633318697598976 * quantaPerOne : Nat) : Int).natAbs := by
    rw [Int.natAbs_natCast]
    exact kept_of_le (by decide)
  have keptProduct : Kept ((633318697598976 * 1000000 * quantaPerOne : Nat) : Int).natAbs := by
    decide +kernel
  apply Int.not_le.mpr below
  unfold Quantity.taggedPosition
  split
  next same =>
    rw [split, same] at product
    exact Int.le_of_mul_le_mul_right product (by decide)
  next =>
    have rounding : _ ≤ rounded (wholePosition count * size) 1 := le_rounded keptProduct Nat.one_pos
      (by rwa [Int.natCast_one, Int.mul_one])
    rw [split] at rounding
    exact le_rounded keptBound (by decide) rounding

end DurationText
end Chronometry
