/-!
# Rounding to binary64

Every finite binary64 magnitude is a whole number of quanta, where one quantum is `2 ^ (-1074)`.
This module says which counts of quanta have room in 53 significant bits and rounds an arbitrary
fraction of quanta to the nearest of them.  Arithmetic on binary64 numbers is then exact arithmetic
followed by one call of `roundQuanta`.
-/

namespace Chronometry
namespace Binary64

-- Powers are written `Nat.pow`, which names the same function whatever instances of powers are in
-- scope.

/-- The number of quanta in the number one. -/
def quantaPerOne : Nat := Nat.pow 2 1074

/-- The least power of two that is too large for a finite magnitude, in quanta. -/
def quantaLimit : Nat := Nat.pow 2 2098

/-- A count of quanta is representable when its bits below the leading 53 are zero and it is below
the limit. -/
def Representable (quanta : Nat) : Prop :=
  Nat.pow 2 (quanta.log2 - 52) ∣ quanta ∧ quanta < quantaLimit

instance (quanta : Nat) : Decidable (Representable quanta) :=
  inferInstanceAs (Decidable (_ ∧ _))

theorem quantaLimit_pos : 0 < quantaLimit := by
  decide +kernel

theorem representable_zero : Representable 0 :=
  ⟨Nat.dvd_zero _, quantaLimit_pos⟩

/-- The quotient of two counts rounded to the nearest count; a tie goes to the even neighbour. -/
def divNearestEven (numerator denominator : Nat) : Nat :=
  let quotient := numerator / denominator
  let remainder := numerator % denominator
  if 2 * remainder < denominator then quotient
  else if denominator < 2 * remainder then quotient + 1
  else if quotient % 2 = 0 then quotient
  else quotient + 1

theorem divNearestEven_le (numerator denominator : Nat) :
    divNearestEven numerator denominator ≤ numerator / denominator + 1 := by
  simp only [divNearestEven]
  split
  · exact Nat.le_succ _
  · split
    · exact Nat.le_refl _
    · split
      · exact Nat.le_succ _
      · exact Nat.le_refl _

/-- The weight, as a power of two, of the last significant bit kept when a count of quanta is
rounded. -/
def roundingShift (quanta : Nat) : Nat :=
  quanta.log2 - 52

/-- The fraction `numerator / denominator` of quanta rounded to 53 significant bits. -/
def roundQuanta (numerator denominator : Nat) : Nat :=
  let shift := roundingShift (numerator / denominator)
  divNearestEven numerator (denominator * Nat.pow 2 shift) * Nat.pow 2 shift

theorem div_roundingShift_lt (quanta : Nat) :
    quanta / Nat.pow 2 (roundingShift quanta) < Nat.pow 2 53 := by
  rw [Nat.pow_eq, Nat.pow_eq, Nat.div_lt_iff_lt_mul (Nat.pow_pos (by decide)), ← Nat.pow_add]
  refine Nat.lt_of_lt_of_le Nat.lt_log2_self (Nat.pow_le_pow_right (by decide) ?_)
  unfold roundingShift
  omega

/-- A multiple of `2 ^ shift` with at most 53 significant bits before the shift keeps only 53
significant bits. -/
theorem dvd_shifted {mantissa : Nat} (shift : Nat) (bound : mantissa ≤ Nat.pow 2 53) :
    Nat.pow 2 ((mantissa * Nat.pow 2 shift).log2 - 52) ∣ mantissa * Nat.pow 2 shift := by
  simp only [Nat.pow_eq] at bound ⊢
  by_cases zero : mantissa = 0
  · simp [zero]
  have positive : mantissa * 2 ^ shift ≠ 0 :=
    Nat.mul_ne_zero zero (Nat.pow_pos (by decide) |> Nat.ne_of_gt)
  by_cases full : mantissa = 2 ^ 53
  · subst full
    rw [← Nat.pow_add, Nat.log2_two_pow]
    exact Nat.pow_dvd_pow 2 (by omega)
  · have small : (mantissa * 2 ^ shift).log2 < 53 + shift := by
      rw [Nat.log2_lt positive, Nat.pow_add]
      exact Nat.mul_lt_mul_of_pos_right (by omega) (Nat.pow_pos (by decide))
    exact Nat.dvd_trans (Nat.pow_dvd_pow 2 (by omega)) (Nat.dvd_mul_left _ _)

theorem dvd_roundQuanta (numerator denominator : Nat) :
    Nat.pow 2 ((roundQuanta numerator denominator).log2 - 52) ∣
      roundQuanta numerator denominator := by
  refine dvd_shifted _ (Nat.le_trans (divNearestEven_le _ _) ?_)
  rw [← Nat.div_div_eq_div_mul]
  exact div_roundingShift_lt _

end Binary64
end Chronometry
