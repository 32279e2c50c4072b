import Chronometry.Proofs.Binary64.Nearest

/-!
# Arithmetic on positions

A finite number is its position on the line of quanta, apart from the sign of zero.  Seen from there
every operation is the exact operation on positions followed by one signed rounding, and everything
that is said about the accuracy of a computation is said about that rounding.  It is odd, it keeps
the order, it fixes what keeps its bits, and above the finest grid it errs by no more than one part
in `2 ^ 53`.

Being nearest is enough to keep the order.  Two fractions of one denominator could be rounded the
wrong way round only if each of them were closer to the other one's number, and then they would be
equal.
-/

namespace Chronometry
namespace Binary64

/-! ## Signed rounding -/

/-- A fraction of quanta of either sign rounded to 53 significant bits. -/
def rounded (numerator : Int) (denominator : Nat) : Int :=
  signed (numerator < 0) (roundQuanta numerator.natAbs denominator)

theorem natAbs_rounded (numerator : Int) (denominator : Nat) :
    (rounded numerator denominator).natAbs = roundQuanta numerator.natAbs denominator :=
  natAbs_signed _ _

theorem kept_rounded (numerator : Int) (denominator : Nat) :
    Kept (rounded numerator denominator).natAbs := by
  rw [natAbs_rounded]
  exact dvd_roundQuanta _ _

variable {denominator : Nat}

/-- No position that keeps its bits is closer to a fraction than the one that it is rounded to. -/
theorem rounded_nearest (numerator : Int) (positive : 0 < denominator) {other : Int}
    (kept : Kept other.natAbs) :
    (rounded numerator denominator * denominator - numerator).natAbs ≤
      (other * denominator - numerator).natAbs := by
  have sameSide := roundQuanta_nearest numerator.natAbs positive kept
  have fromZero := roundQuanta_nearest numerator.natAbs positive (Nat.dvd_zero _)
  have opposite : 0 ≤ (other.natAbs : Int) * denominator :=
    Int.mul_nonneg (Int.natCast_nonneg _) (Int.natCast_nonneg _)
  simp only [Nat.zero_mul, Int.natCast_mul] at sameSide fromZero
  unfold rounded signed
  rcases Int.natAbs_eq other with right | left
  · rw [right]
    split
    next negative =>
      have := of_decide_eq_true negative
      rw [Int.neg_mul]
      omega
    next nonnegative =>
      rw [decide_eq_true_iff] at nonnegative
      omega
  · rw [left, Int.neg_mul]
    split
    next negative =>
      have := of_decide_eq_true negative
      rw [Int.neg_mul]
      omega
    next nonnegative =>
      rw [decide_eq_true_iff] at nonnegative
      omega

/-- A fraction that is a position is rounded to it. -/
theorem rounded_mul {position : Int} (kept : Kept position.natAbs) (positive : 0 < denominator) :
    rounded (position * denominator) denominator = position := by
  have nearest := rounded_nearest (position * denominator) positive kept
  rw [Int.sub_self, Int.natAbs_zero, Nat.le_zero_eq, Int.natAbs_eq_zero] at nearest
  exact Int.eq_of_mul_eq_mul_right (Int.natCast_ne_zero.mpr (Nat.ne_of_gt positive))
    (Int.eq_of_sub_eq_zero nearest)

theorem rounded_of_kept {position : Int} (kept : Kept position.natAbs) :
    rounded position 1 = position := by
  have fixed := rounded_mul kept Nat.one_pos
  rwa [Int.natCast_one, Int.mul_one] at fixed

theorem rounded_zero (positive : 0 < denominator) : rounded 0 denominator = 0 := by
  have fixed : rounded (0 * denominator) denominator = 0 := rounded_mul (Nat.dvd_zero _) positive
  rwa [Int.zero_mul] at fixed

theorem rounded_neg (numerator : Int) (positive : 0 < denominator) :
    rounded (-numerator) denominator = -rounded numerator denominator := by
  rcases Int.lt_trichotomy numerator 0 with negative | rfl | above
  · have opposite : ¬-numerator < 0 := by omega
    simp only [rounded, signed, opposite, negative, decide_true, decide_false, Int.natAbs_neg,
      if_true, Int.neg_neg, Bool.false_eq_true, if_false]
  · rw [Int.neg_zero, rounded_zero positive, Int.neg_zero]
  · have opposite : -numerator < 0 := by omega
    have unsigned : ¬numerator < 0 := by omega
    simp only [rounded, signed, opposite, unsigned, decide_true, decide_false, Int.natAbs_neg,
      if_true, Bool.false_eq_true, if_false]

/-- Rounding keeps the order. -/
theorem rounded_mono {first second : Int} (positive : 0 < denominator)
    (ordered : first ≤ second) :
    rounded first denominator ≤ rounded second denominator := by
  apply Int.not_lt.mp
  intro crossed
  have firstNearest := rounded_nearest first positive (kept_rounded second denominator)
  have secondNearest := rounded_nearest second positive (kept_rounded first denominator)
  have scaled := Int.mul_lt_mul_of_pos_right crossed (Int.natCast_pos.mpr positive)
  -- Each fraction lies on the far side of the middle between the two numbers.
  have together : first = second := by omega
  rw [together] at crossed
  exact Int.lt_irrefl _ crossed

theorem rounded_nonneg {numerator : Int} (positive : 0 < denominator)
    (nonnegative : 0 ≤ numerator) :
    0 ≤ rounded numerator denominator := by
  have ordered := rounded_mono positive nonnegative
  rwa [rounded_zero positive] at ordered

/-- What is not rounded to zero keeps its sign. -/
theorem sign_rounded {numerator : Int} (positive : 0 < denominator)
    (nonzero : rounded numerator denominator ≠ 0) :
    (rounded numerator denominator).sign = numerator.sign := by
  rcases Int.lt_trichotomy numerator 0 with negative | rfl | above
  · have opposite := rounded_nonneg positive (show 0 ≤ -numerator by omega)
    rw [rounded_neg numerator positive] at opposite
    rw [Int.sign_eq_neg_one_of_neg negative, Int.sign_eq_neg_one_of_neg (by omega)]
  · rw [rounded_zero positive]
  · have nonnegative := rounded_nonneg positive (Int.le_of_lt above)
    rw [Int.sign_eq_one_of_pos above, Int.sign_eq_one_of_pos (by omega)]

/-- Rounding does not pass a position that keeps its bits. -/
theorem rounded_le {numerator bound : Int} (kept : Kept bound.natAbs) (positive : 0 < denominator)
    (within : numerator ≤ bound * denominator) : rounded numerator denominator ≤ bound := by
  have ordered := rounded_mono positive within
  rwa [rounded_mul kept positive] at ordered

theorem le_rounded {numerator bound : Int} (kept : Kept bound.natAbs) (positive : 0 < denominator)
    (within : bound * denominator ≤ numerator) : bound ≤ rounded numerator denominator := by
  have ordered := rounded_mono positive within
  rwa [rounded_mul kept positive] at ordered

theorem natAbs_rounded_le {numerator : Int} {bound : Nat} (kept : Kept bound)
    (positive : 0 < denominator) (within : numerator.natAbs ≤ bound * denominator) :
    (rounded numerator denominator).natAbs ≤ bound := by
  have below : rounded numerator denominator ≤ bound := rounded_le kept positive (by omega)
  have above : rounded (-numerator) denominator ≤ bound := rounded_le kept positive (by omega)
  rw [rounded_neg numerator positive] at above
  omega

theorem le_natAbs_rounded {numerator : Int} {bound : Nat} (kept : Kept bound)
    (positive : 0 < denominator) (within : bound * denominator ≤ numerator.natAbs) :
    bound ≤ (rounded numerator denominator).natAbs := by
  rcases Int.le_total 0 numerator with nonnegative | negative
  · have above : bound ≤ rounded numerator denominator := le_rounded kept positive (by omega)
    omega
  · have above : bound ≤ rounded (-numerator) denominator := le_rounded kept positive (by omega)
    rw [rounded_neg numerator positive] at above
    omega

/-! ## Accuracy -/

theorem divNearestEven_error (numerator : Nat) {denominator : Nat} (positive : 0 < denominator) :
    2 * (((divNearestEven numerator denominator * denominator : Nat) : Int) - numerator).natAbs ≤
      denominator := by
  have division := Nat.div_add_mod' numerator denominator
  have remainder := Nat.mod_lt numerator positive
  have next : (numerator / denominator + 1) * denominator =
      numerator / denominator * denominator + denominator :=
    Nat.succ_mul _ _
  rcases divNearestEven_cases numerator denominator with ⟨chosen, half⟩ | ⟨chosen, half⟩
  · rw [chosen]
    omega
  · rw [chosen]
    omega

/-- The error is at most half the spacing of the grid on which the fraction is rounded. -/
theorem roundQuanta_grid_error (numerator : Nat) (positive : 0 < denominator) :
    2 * (((roundQuanta numerator denominator * denominator : Nat) : Int) - numerator).natAbs ≤
      denominator * Nat.pow 2 (roundingShift (numerator / denominator)) := by
  have rounding : roundQuanta numerator denominator * denominator =
      divNearestEven numerator (denominator * Nat.pow 2 (roundingShift (numerator / denominator))) *
        (denominator * Nat.pow 2 (roundingShift (numerator / denominator))) := by
    simp only [roundQuanta]
    ac_rfl
  rw [rounding]
  exact divNearestEven_error numerator (Nat.mul_pos positive (Nat.two_pow_pos _))

/-- A grid starts at `2 ^ 52` times its spacing. -/
theorem gridStart_eq (shift denominator : Nat) :
    Nat.pow 2 (52 + shift) * denominator = Nat.pow 2 52 * (denominator * Nat.pow 2 shift) := by
  rw [Nat.pow_eq, Nat.pow_add, Nat.mul_assoc, Nat.mul_comm (2 ^ _) denominator]
  rfl

/-- From `2 ^ 52` quanta on the error is at most one part in `2 ^ 53`. -/
theorem roundQuanta_error {numerator : Nat} (positive : 0 < denominator)
    (normal : Nat.pow 2 52 * denominator ≤ numerator) :
    Nat.pow 2 53 * (((roundQuanta numerator denominator * denominator : Nat) : Int) -
      numerator).natAbs ≤ numerator := by
  have started : Nat.pow 2 (52 + roundingShift (numerator / denominator)) * denominator ≤
      numerator := by
    by_cases coarse : 0 < roundingShift (numerator / denominator)
    · exact gridStart_le coarse
    · rw [Nat.eq_zero_of_not_pos coarse]
      exact normal
  have scaled := Nat.mul_le_mul_left (Nat.pow 2 52) (roundQuanta_grid_error numerator positive)
  rw [gridStart_eq] at started
  rw [← Nat.mul_assoc] at scaled
  exact Nat.le_trans scaled started

/-- Below the end of a grid the error is at most half its spacing. -/
theorem roundQuanta_half_error {shift numerator : Nat} (positive : 0 < denominator)
    (below : numerator < Nat.pow 2 (53 + shift) * denominator) :
    2 * (((roundQuanta numerator denominator * denominator : Nat) : Int) - numerator).natAbs ≤
      denominator * Nat.pow 2 shift := by
  have fine : roundingShift (numerator / denominator) ≤ shift := by
    have quotient : numerator / denominator < 2 ^ (53 + shift) :=
      (Nat.div_lt_iff_lt_mul positive).mpr below
    unfold roundingShift
    by_cases none : numerator / denominator = 0
    · rw [none]
      exact Nat.zero_le _
    · have exponent := (Nat.log2_lt none).mpr quotient
      omega
  refine Nat.le_trans (roundQuanta_grid_error numerator positive) ?_
  exact Nat.mul_le_mul_left denominator (Nat.pow_le_pow_right (by decide) fine)

/-- The error does not depend on the sign. -/
theorem natAbs_rounded_sub (numerator : Int) (denominator : Nat) :
    (rounded numerator denominator * denominator - numerator).natAbs =
      (((roundQuanta numerator.natAbs denominator * denominator : Nat) : Int) -
        numerator.natAbs).natAbs := by
  rw [Int.natCast_mul]
  unfold rounded signed
  by_cases negative : numerator < 0
  · rw [if_pos (decide_eq_true negative), Int.neg_mul]
    omega
  · rw [if_neg (by rwa [decide_eq_true_iff])]
    omega

theorem rounded_error {numerator : Int} (positive : 0 < denominator)
    (normal : Nat.pow 2 52 * denominator ≤ numerator.natAbs) :
    Nat.pow 2 53 * (rounded numerator denominator * denominator - numerator).natAbs ≤
      numerator.natAbs := by
  rw [natAbs_rounded_sub]
  exact roundQuanta_error positive normal

/-- Whole numbers of quanta are rounded with a relative error, however small they are. -/
theorem rounded_one_error (value : Int) :
    Nat.pow 2 53 * (rounded value 1 - value).natAbs ≤ value.natAbs := by
  by_cases normal : Nat.pow 2 52 * 1 ≤ value.natAbs
  · have error := rounded_error Nat.one_pos normal
    rwa [Int.natCast_one, Int.mul_one] at error
  · have small : value.natAbs ≤ Nat.pow 2 53 := by
      simp only [Nat.pow_eq] at normal ⊢
      omega
    have shifted : Kept (value.natAbs * 1) := dvd_shifted 0 small
    have kept : Kept value.natAbs := by rwa [Nat.mul_one] at shifted
    rw [rounded_of_kept kept, Int.sub_self]
    exact Nat.zero_le _

theorem rounded_half_error {shift : Nat} {numerator : Int} (positive : 0 < denominator)
    (below : numerator.natAbs < Nat.pow 2 (53 + shift) * denominator) :
    2 * (rounded numerator denominator * denominator - numerator).natAbs ≤
      denominator * Nat.pow 2 shift := by
  rw [natAbs_rounded_sub]
  exact roundQuanta_half_error positive below

/-! ## Numbers at their positions -/

/-- A finite number stands at a position. -/
def StandsAt (x : Binary64) (position : Int) : Prop :=
  x.isFinite = true ∧ x.position? = some position

variable {x y : Binary64} {p q : Int}

theorem standsAt_iff : x.StandsAt p ↔
    ∃ negative quanta representable,
      x = .finite negative quanta representable ∧ signed negative quanta = p := by
  constructor
  · rintro ⟨finite, found⟩
    cases x with
    | nan => contradiction
    | infinity => contradiction
    | finite negative quanta representable =>
        exact ⟨negative, quanta, representable, rfl, Option.some.inj found⟩
  · rintro ⟨negative, quanta, representable, rfl, rfl⟩
    exact ⟨rfl, rfl⟩

theorem StandsAt.kept (standing : x.StandsAt p) : Kept p.natAbs := by
  rcases standsAt_iff.mp standing with ⟨negative, quanta, representable, rfl, rfl⟩
  rw [natAbs_signed]
  exact representable.1

theorem StandsAt.unique (first : x.StandsAt p) (second : x.StandsAt q) : p = q :=
  Option.some.inj (first.2.symm.trans second.2)

theorem order?_of_standsAt (left : x.StandsAt p) (right : y.StandsAt q) :
    x.order? y = some (compare p q) := by
  rw [order?, left.2, right.2]

theorem sameValue_of_standsAt_iff (left : x.StandsAt p) (right : y.StandsAt q) :
    x.sameValue y = true ↔ p = q := by
  rw [sameValue, order?_of_standsAt left right, beq_iff_eq, Option.some_inj, Int.compare_eq_eq]

theorem isZero_iff_of_standsAt (standing : x.StandsAt p) : x.isZero = true ↔ p = 0 := by
  rcases standsAt_iff.mp standing with ⟨negative, quanta, _, rfl, rfl⟩
  rw [isZero, beq_iff_eq, ← Int.natAbs_eq_zero, natAbs_signed]

theorem zero_standsAt (negative : Bool) : (zero negative).StandsAt 0 := by
  refine ⟨rfl, ?_⟩
  cases negative <;> rfl

/-- Rounding the magnitude of a fraction beside its sign is rounding the fraction.  Zero may have
either sign. -/
theorem signed_roundQuanta {negative : Bool} {magnitude : Nat}
    (exact : signed negative magnitude = p) (positive : 0 < denominator) :
    signed negative (roundQuanta magnitude denominator) = rounded p denominator := by
  have size : p.natAbs = magnitude := exact ▸ natAbs_signed negative magnitude
  by_cases none : magnitude = 0
  · have atZero : p = 0 := Int.natAbs_eq_zero.mp (size.trans none)
    have nothing := rounded_zero positive
    have magnitudeZero := natAbs_rounded 0 denominator
    rw [nothing] at magnitudeZero
    rw [atZero, nothing, none]
    change signed negative (roundQuanta (Int.natAbs 0) denominator) = 0
    rw [← magnitudeZero]
    cases negative <;> rfl
  · have side : decide (p < 0) = negative := by
      rw [Bool.eq_iff_iff, decide_eq_true_iff, ← exact, signed_lt_zero_iff none]
    rw [rounded, size, side]

theorem round_standsAt {negative : Bool} {magnitude : Nat} (exact : signed negative magnitude = p)
    (positive : 0 < denominator) (within : (rounded p denominator).natAbs < quantaLimit) :
    (round negative magnitude denominator).StandsAt (rounded p denominator) := by
  have size : p.natAbs = magnitude := exact ▸ natAbs_signed negative magnitude
  rw [natAbs_rounded, size] at within
  unfold round
  rw [dif_pos within]
  exact ⟨rfl, congrArg some (signed_roundQuanta exact positive)⟩

theorem ofInt_standsAt {value : Int}
    (within : (rounded (value * quantaPerOne) 1).natAbs < quantaLimit) :
    (ofInt value).StandsAt (rounded (value * quantaPerOne) 1) :=
  round_standsAt (signed_natAbs value quantaPerOne) Nat.one_pos within

theorem signed_not (negative : Bool) (quanta : Nat) :
    signed (!negative) quanta = -signed negative quanta := by
  cases negative <;> simp [signed]

theorem finite_mul_finite (left right : Bool) {m n : Nat} (hm : Representable m)
    (hn : Representable n) :
    finite left m hm * finite right n hn = round (left != right) (m * n) quantaPerOne := by
  change mul _ _ = _
  simp only [mul]

theorem neg_finite (negative : Bool) {quanta : Nat} (representable : Representable quanta) :
    -finite negative quanta representable = finite (!negative) quanta representable := rfl

theorem isFinite_neg (x : Binary64) : (-x).isFinite = x.isFinite := by
  cases x <;> rfl

theorem neg_standsAt (standing : x.StandsAt p) : (-x).StandsAt (-p) := by
  rcases standsAt_iff.mp standing with ⟨negative, quanta, representable, rfl, rfl⟩
  rw [neg_finite, ← signed_not]
  exact ⟨rfl, rfl⟩

/-- The sum is the exact sum, rounded. -/
theorem add_standsAt (left : x.StandsAt p) (right : y.StandsAt q)
    (within : (rounded (p + q) 1).natAbs < quantaLimit) : (x + y).StandsAt (rounded (p + q) 1) := by
  rcases standsAt_iff.mp left with ⟨leftNegative, m, _, rfl, rfl⟩
  rcases standsAt_iff.mp right with ⟨rightNegative, n, _, rfl, rfl⟩
  change (if signed leftNegative m + signed rightNegative n = 0 then
    zero (leftNegative && rightNegative)
    else round (signed leftNegative m + signed rightNegative n < 0)
      (signed leftNegative m + signed rightNegative n).natAbs 1).StandsAt _
  by_cases none : signed leftNegative m + signed rightNegative n = 0
  · rw [if_pos none, none, rounded_zero Nat.one_pos]
    exact zero_standsAt _
  · have exact := signed_natAbs (signed leftNegative m + signed rightNegative n) 1
    rw [Nat.mul_one, Int.natCast_one, Int.mul_one] at exact
    rw [if_neg none]
    exact round_standsAt exact Nat.one_pos within

theorem signed_mul_signed (left right : Bool) (m n : Nat) :
    signed (left != right) (m * n) = signed left m * signed right n := by
  cases left <;> cases right <;>
    simp only [signed, bne_self_eq_false, Bool.true_bne, Bool.false_bne, Bool.not_false,
      Bool.false_eq_true, if_true, if_false, Int.natCast_mul, Int.neg_mul, Int.mul_neg, Int.neg_neg]

theorem signed_mul (negative : Bool) (m n : Nat) :
    signed negative (m * n) = signed negative m * n := by
  cases negative <;>
    simp only [signed, Bool.false_eq_true, if_true, if_false, Int.natCast_mul, Int.neg_mul]

/-- The product is the exact product, rounded. -/
theorem mul_standsAt (left : x.StandsAt p) (right : y.StandsAt q)
    (within : (rounded (p * q) quantaPerOne).natAbs < quantaLimit) :
    (x * y).StandsAt (rounded (p * q) quantaPerOne) := by
  rcases standsAt_iff.mp left with ⟨leftNegative, m, _, rfl, rfl⟩
  rcases standsAt_iff.mp right with ⟨rightNegative, n, _, rfl, rfl⟩
  rw [finite_mul_finite]
  exact round_standsAt (signed_mul_signed leftNegative rightNegative m n) quantaPerOne_pos within

/-- A number at a positive position has no sign. -/
theorem StandsAt.exists_finite {quanta : Nat} (standing : x.StandsAt quanta)
    (positive : 0 < quanta) :
    ∃ representable, x = .finite false quanta representable := by
  rcases standsAt_iff.mp standing with ⟨negative, n, representable, rfl, same⟩
  have size : n = quanta := by
    have magnitudes := congrArg Int.natAbs same
    rwa [natAbs_signed, Int.natAbs_natCast] at magnitudes
  subst size
  cases negative with
  | false => exact ⟨representable, rfl⟩
  | true =>
      change -(n : Int) = n at same
      omega

theorem finite_div_finite (left right : Bool) {m n : Nat} (hm : Representable m)
    (hn : Representable n) (positive : 0 < n) :
    finite left m hm / finite right n hn = round (left != right) (m * quantaPerOne) n := by
  change div _ _ = _
  simp only [div, if_neg (Nat.ne_of_gt positive)]

theorem signed_one_eq_sign (negative : Bool) {quanta : Nat} (nonzero : quanta ≠ 0) :
    signed negative 1 = (signed negative quanta).sign := by
  have positive : (quanta : Int).sign = 1 := Int.sign_eq_one_of_pos (by omega)
  cases negative
  · exact positive.symm
  · change -1 = (-(quanta : Int)).sign
    rw [Int.sign_neg, positive]

/-- The sign of the divisor passes to the dividend. -/
theorem signed_dividend (left right : Bool) (m : Nat) {n : Nat} (nonzero : n ≠ 0) :
    signed (left != right) (m * quantaPerOne) =
      signed left m * quantaPerOne * (signed right n).sign := by
  rw [← signed_one_eq_sign right nonzero, ← signed_mul, ← signed_mul_signed, Nat.mul_one]

/-- The quotient by a number other than zero is the exact quotient, rounded. -/
theorem div_signed_standsAt (left : x.StandsAt p) (right : y.StandsAt q) (nonzero : q ≠ 0)
    (within : (rounded (p * quantaPerOne * q.sign) q.natAbs).natAbs < quantaLimit) :
    (x / y).StandsAt (rounded (p * quantaPerOne * q.sign) q.natAbs) := by
  rcases standsAt_iff.mp left with ⟨leftNegative, m, _, rfl, rfl⟩
  rcases standsAt_iff.mp right with ⟨rightNegative, n, _, rfl, rfl⟩
  rw [natAbs_signed] at within ⊢
  rw [← Int.natAbs_ne_zero, natAbs_signed] at nonzero
  have positive : 0 < n := Nat.pos_of_ne_zero nonzero
  rw [finite_div_finite _ _ _ _ positive]
  exact round_standsAt (signed_dividend leftNegative rightNegative m nonzero) positive within

/-- The quotient by a positive number. -/
theorem div_standsAt {divisor : Nat} (left : x.StandsAt p) (right : y.StandsAt divisor)
    (positive : 0 < divisor) (within : (rounded (p * quantaPerOne) divisor).natAbs < quantaLimit) :
    (x / y).StandsAt (rounded (p * quantaPerOne) divisor) := by
  have unsigned : (divisor : Int).sign = 1 := Int.sign_eq_one_of_pos (Int.natCast_pos.mpr positive)
  have quotient := div_signed_standsAt left right (Int.natCast_ne_zero.mpr (Nat.ne_of_gt positive))
  rw [unsigned, Int.mul_one, Int.natAbs_natCast] at quotient
  exact quotient within

end Binary64
end Chronometry
