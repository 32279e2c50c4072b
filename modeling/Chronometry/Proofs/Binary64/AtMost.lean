import Chronometry.Proofs.Binary64.Numeral
import Chronometry.Proofs.Binary64.Position
import Chronometry.Proofs.Text.WrittenDigits

/-!
# Numbers at most a bound

Sums and products of numbers without a sign are not negative and they are numbers, but they may be
infinite.  A bound in quanta is carried through the operations, where infinity counts as the limit
of the finite magnitudes.  Rounding at most doubles a fraction, and it adds an eighth at most to a
whole count of quanta.  What is infinite has used up its bound.
-/

namespace Chronometry
namespace Binary64

variable {bound bound' room : Nat} {x y : Binary64}

/-- A number without a sign is at most as many quanta as the bound.  Infinity counts as the
limit. -/
inductive AtMost (bound : Nat) : Binary64 -> Prop where
  | infinity (reached : quantaLimit ≤ bound) : AtMost bound (.infinity false)
  | finite {quanta : Nat} (representable : Representable quanta) (within : quanta ≤ bound) :
      AtMost bound (.finite false quanta representable)

/-- What is not finite has reached the limit, and it is positive. -/
theorem AtMost.eq_infinity (most : x.AtMost bound) (infinite : x.isFinite = false) :
    x = .infinity false ∧ quantaLimit ≤ bound := by
  cases most with
  | infinity reached => exact ⟨rfl, reached⟩
  | finite => contradiction

theorem zero_atMost (bound : Nat) : (zero false).AtMost bound :=
  .finite representable_zero (Nat.zero_le bound)

/-! ## Rounding -/

theorem round_atMost {numerator denominator : Nat}
    (most : roundQuanta numerator denominator ≤ bound) :
    (round false numerator denominator).AtMost bound := by
  unfold round
  split
  next => exact .finite _ most
  next beyond => exact .infinity (Nat.le_trans (Nat.le_of_not_lt beyond) most)

/-- Zero is as far from a fraction as the double of the fraction is. -/
theorem roundQuanta_le_of_double {numerator denominator : Nat} (positive : 0 < denominator)
    (double : 2 * numerator ≤ bound * denominator) :
    roundQuanta numerator denominator ≤ bound := by
  have nearest := roundQuanta_nearest numerator positive (Nat.dvd_zero _)
  rw [Nat.zero_mul] at nearest
  apply Nat.le_of_mul_le_mul_right _ positive
  omega

theorem roundQuanta_one_le (quanta : Nat) : 8 * roundQuanta quanta 1 ≤ 9 * quanta := by
  have error := rounded_one_error quanta
  have magnitude := natAbs_rounded quanta 1
  rw [Int.natAbs_natCast] at error magnitude
  have eighth : 8 * (rounded quanta 1 - quanta).natAbs ≤ quanta :=
    Nat.le_trans (Nat.mul_le_mul_right _ (by decide)) error
  omega

/-! ## Operations -/

theorem add_atMost (left : x.AtMost bound) (right : y.AtMost bound')
    (grows : 9 * (bound + bound') ≤ 8 * room) :
    (x + y).AtMost room := by
  cases left with
  | infinity reached =>
      have limit : quantaLimit ≤ room := by omega
      cases right with
      | infinity => exact .infinity limit
      | finite => exact .infinity limit
  | @finite m _ within =>
      cases right with
      | infinity reached => exact .infinity (by omega)
      | @finite n _ within' =>
          have sum : signed false m + signed false n = ((m + n : Nat) : Int) := rfl
          have sign : decide (((m + n : Nat) : Int) < 0) = false := decide_eq_false (by omega)
          change (if signed false m + signed false n = 0 then zero (false && false)
            else round (signed false m + signed false n < 0)
            (signed false m + signed false n).natAbs 1).AtMost room
          rw [sum, sign, Int.natAbs_natCast]
          split
          · exact zero_atMost room
          · have rounded := roundQuanta_one_le (m + n)
            exact round_atMost (by omega)

/-- The product with a positive number.  An infinite factor stays at the limit also if the other is
less than one. -/
theorem mul_atMost {quanta : Nat} (left : x.AtMost bound) (right : y.StandsAt quanta)
    (positive : 0 < quanta) (within : quanta ≤ bound')
    (doubles : 2 * (bound * bound') ≤ room * quantaPerOne) (grows : bound ≤ room) :
    (x * y).AtMost room := by
  rcases right.exists_finite positive with ⟨representable, rfl⟩
  cases left with
  | infinity reached =>
      change (if quanta = 0 then nan else infinity (false != false)).AtMost room
      rw [if_neg (Nat.ne_of_gt positive)]
      exact .infinity (Nat.le_trans reached grows)
  | @finite m _ most =>
      rw [finite_mul_finite]
      apply round_atMost
      apply roundQuanta_le_of_double quantaPerOne_pos
      exact Nat.le_trans (Nat.mul_le_mul_left 2 (Nat.mul_le_mul most within)) doubles

/-! ## Numerals -/

variable {numeral whole : List Char} {fraction : Option (List Char)}

theorem Splits.length_le (splits : Splits numeral whole fraction) :
    (whole ++ fraction.getD []).length ≤ numeral.length := by
  rw [splits.spelled, List.length_append, List.length_append]
  cases fraction with
  | none => exact Nat.le_refl _
  | some digits => exact Nat.add_le_add_left (Nat.le_succ _) _

/-- Digits on the two sides of a point denote at most the double of one behind as many zeros. -/
theorem Splits.ofDigits_atMost (splits : Splits numeral whole fraction) :
    (ofDigits whole fraction).AtMost (2 * Nat.pow 10 numeral.length * quantaPerOne) := by
  have every : ∀ c ∈ whole ++ fraction.getD [], c.isDigit = true := by
    intro c listed
    exact (List.mem_append.mp listed).elim (splits.wholeDigits c) (splits.fractionDigits c)
  have digits : Text.natOfDigits (whole ++ fraction.getD []) ≤ Nat.pow 10 numeral.length :=
    Nat.le_trans (Nat.le_of_lt (Text.natOfDigits_lt every))
      (Nat.pow_le_pow_right (by decide) splits.length_le)
  have scaled : 2 * (Text.natOfDigits (whole ++ fraction.getD []) * quantaPerOne) ≤
      2 * Nat.pow 10 numeral.length * quantaPerOne := by
    rw [Nat.mul_assoc]
    exact Nat.mul_le_mul_left 2 (Nat.mul_le_mul_right _ digits)
  unfold ofDigits ofDecimal
  split
  next => exact zero_atMost _
  next =>
    rw [if_neg (by omega)]
    split
    next whole =>
      have noPlaces : (-((fraction.getD []).length : Int)).toNat = 0 := by omega
      apply round_atMost
      apply roundQuanta_le_of_double Nat.one_pos
      rw [noPlaces, Nat.pow_eq, Nat.pow_zero, Nat.mul_one, Nat.mul_one]
      exact scaled
    next =>
      split
      next => exact zero_atMost _
      next =>
        apply round_atMost
        apply roundQuanta_le_of_double (Nat.pow_pos (by decide))
        exact Nat.le_trans scaled (Nat.le_mul_of_pos_right _ (Nat.pow_pos (by decide)))

end Binary64
end Chronometry
