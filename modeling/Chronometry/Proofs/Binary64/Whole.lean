import Chronometry.Proofs.Binary64.Position

/-!
# Computing with whole numbers

A result that is finite came from finite operands, and so its position can be followed back through
the operations that led to it.  On the way whole numbers are exact as long as they keep their bits,
a common factor of a fraction does not count, and a number that is close enough to a fraction is
what the fraction is rounded to.
-/

namespace Chronometry
namespace Binary64

instance (x : Binary64) (position : Int) : Decidable (x.StandsAt position) :=
  inferInstanceAs (Decidable (_ ∧ _))

/-! ## Finite results -/

variable {x y : Binary64} {p q : Int} {denominator : Nat}

theorem within_of_isFinite_round {negative : Bool} {magnitude : Nat}
    (exact : signed negative magnitude = p)
    (finite : (round negative magnitude denominator).isFinite = true) :
    (rounded p denominator).natAbs < quantaLimit := by
  have size : p.natAbs = magnitude := exact ▸ natAbs_signed negative magnitude
  rw [natAbs_rounded, size]
  unfold round at finite
  split at finite
  next within => exact within
  next => contradiction

theorem ofInt_standsAt_of_isFinite {value : Int} (finite : (ofInt value).isFinite = true) :
    (ofInt value).StandsAt (rounded (value * quantaPerOne) 1) :=
  ofInt_standsAt (within_of_isFinite_round (signed_natAbs value quantaPerOne) finite)

/-- A finite product has a finite first factor, and it is the exact product, rounded. -/
theorem mul_standsAt_of_isFinite (left : x.StandsAt p) (right : y.StandsAt q)
    (finite : (x * y).isFinite = true) :
    (x * y).StandsAt (rounded (p * q) quantaPerOne) := by
  apply mul_standsAt left right
  rcases standsAt_iff.mp left with ⟨leftNegative, m, _, rfl, rfl⟩
  rcases standsAt_iff.mp right with ⟨rightNegative, n, _, rfl, rfl⟩
  rw [finite_mul_finite] at finite
  exact within_of_isFinite_round (signed_mul_signed leftNegative rightNegative m n) finite

theorem isFinite_of_isFinite_mul (right : y.StandsAt q) (finite : (x * y).isFinite = true) :
    x.isFinite = true := by
  rcases standsAt_iff.mp right with ⟨rightNegative, n, _, rfl, _⟩
  cases x with
  | nan => exact finite
  | infinity left =>
      change (mul _ _).isFinite = true at finite
      simp only [mul] at finite
      split at finite
      · contradiction
      · contradiction
  | finite => rfl

theorem div_signed_standsAt_of_isFinite (left : x.StandsAt p) (right : y.StandsAt q)
    (nonzero : q ≠ 0) (finite : (x / y).isFinite = true) :
    (x / y).StandsAt (rounded (p * quantaPerOne * q.sign) q.natAbs) := by
  apply div_signed_standsAt left right nonzero
  rcases standsAt_iff.mp left with ⟨leftNegative, m, _, rfl, rfl⟩
  rcases standsAt_iff.mp right with ⟨rightNegative, n, _, rfl, rfl⟩
  rw [← Int.natAbs_ne_zero, natAbs_signed] at nonzero
  rw [finite_div_finite _ _ _ _ (Nat.pos_of_ne_zero nonzero)] at finite
  rw [natAbs_signed]
  exact within_of_isFinite_round (signed_dividend leftNegative rightNegative m nonzero) finite

theorem div_standsAt_of_isFinite {divisor : Nat} (left : x.StandsAt p) (right : y.StandsAt divisor)
    (positive : 0 < divisor) (finite : (x / y).isFinite = true) :
    (x / y).StandsAt (rounded (p * quantaPerOne) divisor) := by
  have unsigned : (divisor : Int).sign = 1 := Int.sign_eq_one_of_pos (Int.natCast_pos.mpr positive)
  have quotient := div_signed_standsAt_of_isFinite left right
    (Int.natCast_ne_zero.mpr (Nat.ne_of_gt positive)) finite
  rwa [unsigned, Int.mul_one, Int.natAbs_natCast] at quotient

theorem isFinite_of_isFinite_div (right : y.StandsAt q) (finite : (x / y).isFinite = true) :
    x.isFinite = true := by
  rcases standsAt_iff.mp right with ⟨rightNegative, n, _, rfl, _⟩
  cases x with
  | nan => exact finite
  | infinity left => contradiction
  | finite => rfl

theorem exists_standsAt (finite : x.isFinite = true) : ∃ position, x.StandsAt position := by
  cases x with
  | nan => contradiction
  | infinity => contradiction
  | finite negative quanta representable => exact ⟨signed negative quanta, rfl, rfl⟩

/-! ## Whole numbers -/

theorem isFinite_of_whole? {whole : Int} (found : x.whole? = some whole) : x.isFinite = true := by
  cases x with
  | nan => contradiction
  | infinity => contradiction
  | finite => rfl

/-- A number is whole where it stands at whole ones. -/
theorem whole?_eq_some_iff_of_standsAt (standing : x.StandsAt p) {whole : Int} :
    x.whole? = some whole ↔ p = whole * quantaPerOne := by
  rcases standsAt_iff.mp standing with ⟨negative, quanta, _, rfl, rfl⟩
  simp only [whole?]
  constructor
  · intro found
    split at found
    next divides =>
      rw [← Option.some.inj found, ← signed_mul,
        Nat.div_mul_cancel (Nat.dvd_of_mod_eq_zero divides)]
    next => contradiction
  · intro same
    have magnitudes := congrArg Int.natAbs same
    rw [natAbs_signed, Int.natAbs_mul, Int.natAbs_natCast] at magnitudes
    rw [magnitudes, signed_mul] at same
    rw [if_pos (magnitudes ▸ Nat.mul_mod_left _ _), magnitudes,
      Nat.mul_div_cancel _ quantaPerOne_pos]
    exact congrArg some
      (Int.eq_of_mul_eq_mul_right (Int.natCast_ne_zero.mpr (Nat.ne_of_gt quantaPerOne_pos)) same)

theorem kept_quantaPerOne : Kept quantaPerOne := by
  decide +kernel

theorem sign_quantaPerOne : (quantaPerOne : Int).sign = 1 :=
  Int.sign_eq_one_of_pos (Int.natCast_pos.mpr quantaPerOne_pos)

/-- Whole numbers up to `2 ^ 53` are exact. -/
theorem kept_of_le {whole : Nat} (small : whole ≤ Nat.pow 2 53) :
    Kept (whole * quantaPerOne) := by
  have power : ∃ shift, quantaPerOne = Nat.pow 2 shift := ⟨1074, by decide +kernel⟩
  rcases power with ⟨shift, same⟩
  rw [Kept, same]
  exact dvd_shifted shift small

theorem kept_mul_quantaPerOne {whole : Int} (nonnegative : 0 ≤ whole)
    (small : whole ≤ Nat.pow 2 53) :
    Kept (whole * quantaPerOne).natAbs := by
  rw [Int.natAbs_mul, Int.natAbs_natCast]
  exact kept_of_le (by omega)

/-- A whole number that is a number of the format. -/
def Exact (value : Int) : Prop :=
  Kept (value * quantaPerOne).natAbs

instance (value : Int) : Decidable (Exact value) :=
  inferInstanceAs (Decidable (Kept _))

theorem exact_of_le {value : Int} (small : value.natAbs ≤ Nat.pow 2 53) : Exact value := by
  rw [Exact, Int.natAbs_mul, Int.natAbs_natCast]
  exact kept_of_le small

theorem Exact.rounded_eq {value : Int} (exact : Exact value) :
    rounded (value * quantaPerOne) 1 = value * quantaPerOne :=
  rounded_of_kept exact

/-- The grid that starts at a power of two. -/
theorem exists_grid (exponent : Nat) :
    ∃ shift, Nat.pow 2 (52 + shift) = Nat.pow 2 exponent * quantaPerOne ∧
      Nat.pow 2 (53 + shift) = 2 * (Nat.pow 2 exponent * quantaPerOne) ∧
      Nat.pow 2 52 * Nat.pow 2 shift = Nat.pow 2 exponent * quantaPerOne := by
  have power : ∃ places, 52 ≤ places ∧ quantaPerOne = 2 ^ places :=
    ⟨1074, by decide, by decide +kernel⟩
  rcases power with ⟨places, enough, same⟩
  have total : 52 + (exponent + places - 52) = exponent + places :=
    Nat.add_sub_of_le (Nat.le_trans enough (Nat.le_add_left _ _))
  have next : 53 + (exponent + places - 52) = exponent + places + 1 :=
    (Nat.add_right_comm 52 1 _).trans (congrArg (· + 1) total)
  have start : Nat.pow 2 exponent * quantaPerOne = 2 ^ (exponent + places) := by
    rw [same, Nat.pow_eq, ← Nat.pow_add]
  refine ⟨exponent + places - 52, ?_, ?_, ?_⟩
  · rw [start, total, Nat.pow_eq]
  · rw [start, next, Nat.pow_eq, Nat.pow_succ']
  · rw [start, Nat.pow_eq, Nat.pow_eq, ← Nat.pow_add, total]

/-- Below twice a power of two the error is at most half the spacing of the grid that starts
there. -/
theorem rounded_error_below (exponent : Nat) {numerator : Int} (positive : 0 < denominator)
    (below : numerator.natAbs < 2 * (Nat.pow 2 exponent * quantaPerOne) * denominator) :
    Nat.pow 2 53 * (rounded numerator denominator * denominator - numerator).natAbs ≤
      Nat.pow 2 exponent * quantaPerOne * denominator := by
  rcases exists_grid exponent with ⟨shift, _, finish, spacing⟩
  have half := Nat.mul_le_mul_left (Nat.pow 2 52) (rounded_half_error positive (by rwa [finish]))
  rw [Nat.mul_comm denominator, ← Nat.mul_assoc, ← Nat.mul_assoc, spacing] at half
  exact half

/-- Above a power of two, numbers are whole multiples of one part in `2 ^ 52` of it. -/
theorem exists_steps_of_kept (exponent places : Nat) (bits : exponent + places = 52)
    {position : Int} (kept : Kept position.natAbs)
    (above : (Nat.pow 2 exponent * quantaPerOne : Nat) ≤ position) :
    ∃ steps : Int, (Nat.pow 2 places : Nat) * position = steps * quantaPerOne := by
  rcases exists_grid exponent with ⟨shift, start, _, spacing⟩
  have scale : Nat.pow 2 places * Nat.pow 2 shift = quantaPerOne := by
    have split : Nat.pow 2 52 = Nat.pow 2 exponent * Nat.pow 2 places := by
      simp only [Nat.pow_eq]
      rw [← Nat.pow_add, bits]
    rw [split, Nat.mul_assoc] at spacing
    exact Nat.eq_of_mul_eq_mul_left (Nat.two_pow_pos _) spacing
  have started : Nat.pow 2 (52 + shift) ≤ position.natAbs := by omega
  rcases dvd_of_gridStart_le kept started with ⟨steps, multiple⟩
  have positive : position = (Nat.pow 2 shift * steps : Nat) := by omega
  refine ⟨steps, ?_⟩
  rw [positive, ← Int.natCast_mul, ← Nat.mul_assoc, scale, Nat.mul_comm, Int.natCast_mul]

/-- From `2 ^ 52` on, all numbers are whole. -/
theorem exists_whole_of_kept {position : Int} (kept : Kept position.natAbs)
    (large : Nat.pow 2 52 * quantaPerOne ≤ position.natAbs) :
    ∃ whole : Int, position = whole * quantaPerOne := by
  have magnitude : ∃ steps : Int,
      (Nat.pow 2 0 : Nat) * (position.natAbs : Int) = steps * quantaPerOne :=
    exists_steps_of_kept 52 0 rfl kept (by omega)
  rcases magnitude with ⟨steps, multiple⟩
  change 1 * (position.natAbs : Int) = _ at multiple
  rcases Int.natAbs_eq position with right | left
  · exact ⟨steps, by omega⟩
  · refine ⟨-steps, ?_⟩
    rw [Int.neg_mul]
    omega

/-- Whole ones, and one part of a one more or less, bound what is rounded between them, as long as
there are bits for the part. -/
theorem rounded_within_part (places : Nat) (fits : places ≤ 1074) {position count : Int}
    (few : (Nat.pow 2 places * count).natAbs < Nat.pow 2 53)
    (near : Nat.pow 2 places * (position - count * quantaPerOne).natAbs ≤ quantaPerOne) :
    Nat.pow 2 places * (rounded position 1 - count * quantaPerOne).natAbs ≤ quantaPerOne := by
  have scale : Nat.pow 2 places * Nat.pow 2 (1074 - places) = quantaPerOne := by
    simp only [Nat.pow_eq]
    rw [← Nat.pow_add, Nat.add_sub_cancel' fits]
    decide +kernel
  have kept {steps : Int} (small : steps.natAbs ≤ Nat.pow 2 53) :
      Kept (steps * Nat.pow 2 (1074 - places)).natAbs := by
    rw [Int.natAbs_mul]
    exact dvd_shifted _ small
  generalize Nat.pow 2 (1074 - places) = part at *
  have ones : count * quantaPerOne = Nat.pow 2 places * count * part := by
    rw [← scale, Int.natCast_mul, Int.mul_left_comm, Int.mul_assoc]
  have apart : (position - count * quantaPerOne).natAbs ≤ part :=
    Nat.le_of_mul_le_mul_left (Nat.le_trans near (Nat.le_of_eq scale.symm)) (Nat.two_pow_pos places)
  have upper : (Nat.pow 2 places * count + 1) * part = count * quantaPerOne + part := by
    rw [Int.add_mul, Int.one_mul, ones]
  have lower : (Nat.pow 2 places * count - 1) * part = count * quantaPerOne - part := by
    rw [Int.sub_mul, Int.one_mul, ones]
  have above := rounded_le (kept (show (Nat.pow 2 places * count + 1).natAbs ≤ _ by omega))
    Nat.one_pos (show position ≤ _ by omega)
  have below := le_rounded (kept (show (Nat.pow 2 places * count - 1).natAbs ≤ _ by omega))
    Nat.one_pos (show _ ≤ position by omega)
  apply Nat.le_trans (Nat.mul_le_mul_left _ (show _ ≤ part by omega))
  exact Nat.le_of_eq scale

/-! ## Fractions -/

theorem divNearestEven_mul_right (numerator denominator : Nat) {factor : Nat}
    (positive : 0 < factor) :
    divNearestEven (numerator * factor) (denominator * factor) =
      divNearestEven numerator denominator := by
  have twice : 2 * (numerator * factor % (denominator * factor)) =
      2 * (numerator % denominator) * factor := by
    rw [Nat.mul_mod_mul_right, Nat.mul_assoc]
  simp only [divNearestEven, Nat.mul_div_mul_right _ _ positive, twice,
    Nat.mul_lt_mul_right positive]

/-- A common factor does not count. -/
theorem roundQuanta_mul_right (numerator denominator : Nat) {factor : Nat} (positive : 0 < factor) :
    roundQuanta (numerator * factor) (denominator * factor) =
      roundQuanta numerator denominator := by
  simp only [roundQuanta, Nat.mul_div_mul_right _ _ positive, Nat.mul_right_comm denominator factor,
    divNearestEven_mul_right _ _ positive]

theorem rounded_mul_right (numerator : Int) (denominator : Nat) {factor : Nat}
    (positive : 0 < factor) :
    rounded (numerator * factor) (denominator * factor) = rounded numerator denominator := by
  have side : numerator * factor < 0 ↔ numerator < 0 := by
    have scaled : (0 : Int) < factor := Int.natCast_pos.mpr positive
    constructor
    · intro negative
      exact Int.not_le.mp fun nonnegative =>
        Int.not_le.mpr negative (Int.mul_nonneg nonnegative (Int.le_of_lt scaled))
    · intro negative
      exact Int.mul_neg_of_neg_of_pos negative scaled
  rw [rounded, rounded, Int.natAbs_mul, Int.natAbs_natCast, roundQuanta_mul_right _ _ positive]
  simp only [side]

/-- The position of a product with a whole number. -/
theorem rounded_mul_scale (position : Int) (size : Nat) :
    rounded (position * (size * quantaPerOne : Nat)) quantaPerOne =
      rounded (position * size) 1 := by
  have cancelled := rounded_mul_right (position * size) 1 quantaPerOne_pos
  rwa [Nat.one_mul, Int.mul_assoc, ← Int.natCast_mul] at cancelled

/-- The position of a quotient by a whole number. -/
theorem rounded_div_scale (position : Int) (size : Nat) :
    rounded (position * quantaPerOne) (size * quantaPerOne) = rounded position size :=
  rounded_mul_right position size quantaPerOne_pos

/-! ## Whole factors and divisors -/

variable {whole : Int}

theorem mul_whole_standsAt (left : x.StandsAt p) (right : y.StandsAt (whole * quantaPerOne))
    (finite : (x * y).isFinite = true) : (x * y).StandsAt (rounded (p * whole) 1) := by
  have product := mul_standsAt_of_isFinite left right finite
  have cancelled := rounded_mul_right (p * whole) 1 quantaPerOne_pos
  rw [Nat.one_mul, Int.mul_assoc] at cancelled
  rwa [cancelled] at product

/-- Dividing by a whole number is dividing by its magnitude, with its sign on the other side. -/
theorem div_whole_standsAt (left : x.StandsAt p) (right : y.StandsAt (whole * quantaPerOne))
    (nonzero : whole ≠ 0) (finite : (x / y).isFinite = true) :
    (x / y).StandsAt (rounded (p * whole.sign) whole.natAbs) := by
  have scaled : whole * quantaPerOne ≠ 0 :=
    Int.mul_ne_zero nonzero (Int.natCast_ne_zero.mpr (Nat.ne_of_gt quantaPerOne_pos))
  have quotient := div_signed_standsAt_of_isFinite left right scaled finite
  rw [Int.sign_mul, sign_quantaPerOne, Int.mul_one, Int.natAbs_mul, Int.natAbs_natCast,
    Int.mul_right_comm] at quotient
  rwa [rounded_mul_right _ _ quantaPerOne_pos] at quotient

/-- A number is what a fraction is rounded to, if both lie above the start of a grid and closer
together than half its spacing. -/
theorem rounded_eq_of_near (shift : Nat) {position numerator : Int} {denominator : Nat}
    (kept : Kept position.natAbs) (positive : 0 < denominator)
    (started : (Nat.pow 2 (52 + shift) : Nat) ≤ position)
    (above : (Nat.pow 2 (52 + shift) : Nat) * (denominator : Int) ≤ numerator)
    (near : 2 * (position * denominator - numerator).natAbs < Nat.pow 2 shift * denominator) :
    rounded numerator denominator = position := by
  have roundedAbove : ((Nat.pow 2 (52 + shift) : Nat) : Int) ≤ rounded numerator denominator := by
    apply le_rounded _ positive above
    rw [Int.natAbs_natCast]
    exact kept_two_pow _
  have nearest := rounded_nearest numerator positive kept
  have together : (rounded numerator denominator - position).natAbs * denominator <
      Nat.pow 2 shift * denominator := by
    have product : ((rounded numerator denominator - position).natAbs * denominator : Nat) =
        (rounded numerator denominator * denominator - position * denominator).natAbs := by
      rw [← Int.sub_mul, Int.natAbs_mul, Int.natAbs_natCast]
    omega
  have close : (rounded numerator denominator - position).natAbs < Nat.pow 2 shift :=
    Nat.lt_of_mul_lt_mul_right together
  have onGrid : Nat.pow 2 shift ∣ position.natAbs := dvd_of_gridStart_le kept (by omega)
  have roundedOnGrid : Nat.pow 2 shift ∣ (rounded numerator denominator).natAbs :=
    dvd_of_gridStart_le (kept_rounded numerator denominator) (by omega)
  -- Both are on the grid, and closer together than its spacing.
  have apart : ((Nat.pow 2 shift : Nat) : Int) ∣ rounded numerator denominator - position :=
    Int.dvd_sub (Int.ofNat_dvd_left.mpr roundedOnGrid) (Int.ofNat_dvd_left.mpr onGrid)
  exact Int.sub_eq_zero.mp (Int.eq_zero_of_dvd_of_natAbs_lt_natAbs apart close)

end Binary64
end Chronometry
