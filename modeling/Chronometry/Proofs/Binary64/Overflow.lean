import Chronometry.Proofs.Binary64.Separation

/-!
# Results beyond the limit

A result that is rounded beyond the finite numbers is an infinity, and an infinity stands at the
limit.  The position of a product or a quotient is therefore known whether or not it is finite: it
is the exact result, rounded and cut off at the two limits.  Cutting off keeps the order, like
rounding.
-/

namespace Chronometry
namespace Binary64

/-- A position, or the limit that it lies beyond. -/
def cut (position : Int) : Int :=
  max (-quantaLimit) (min position quantaLimit)

variable {x y : Binary64} {p q : Int} {denominator : Nat}

theorem cut_mono (ordered : p ≤ q) : cut p ≤ cut q := by
  unfold cut
  omega

theorem cut_neg (position : Int) : cut (-position) = -cut position := by
  unfold cut
  omega

theorem natAbs_cut_le (position : Int) : (cut position).natAbs ≤ quantaLimit := by
  unfold cut
  omega

theorem cut_of_natAbs_lt (within : p.natAbs < quantaLimit) : cut p = p := by
  unfold cut
  omega

/-- What is not cut off was within the limits. -/
theorem eq_of_natAbs_cut_lt (within : (cut p).natAbs < quantaLimit) : cut p = p := by
  unfold cut at *
  omega

theorem kept_cut (kept : Kept p.natAbs) : Kept (cut p).natAbs := by
  have sides : (cut p).natAbs = p.natAbs ∨ (cut p).natAbs = quantaLimit := by
    unfold cut
    omega
  rcases sides with inside | outside
  · rwa [inside]
  · rw [outside]
    exact kept_quantaLimit

theorem signed_min (negative : Bool) (quanta : Nat) :
    signed negative (min quanta quantaLimit) = cut (signed negative quanta) := by
  cases negative
  · simp only [signed, cut, Bool.false_eq_true, if_false]
    omega
  · simp only [signed, cut, if_true]
    omega

theorem position?_round_eq {negative : Bool} {magnitude : Nat}
    (exact : signed negative magnitude = p) (positive : 0 < denominator) :
    (round negative magnitude denominator).position? = some (cut (rounded p denominator)) := by
  rw [position?_round, signed_min, signed_roundQuanta exact positive]

theorem StandsAt.natAbs_lt (standing : x.StandsAt p) : p.natAbs < quantaLimit := by
  rcases standsAt_iff.mp standing with ⟨negative, quanta, representable, rfl, rfl⟩
  rw [natAbs_signed]
  exact representable.2

/-- The product of finite numbers. -/
theorem position?_mul (left : x.StandsAt p) (right : y.StandsAt q) :
    (x * y).position? = some (cut (rounded (p * q) quantaPerOne)) := by
  rcases standsAt_iff.mp left with ⟨leftNegative, m, _, rfl, rfl⟩
  rcases standsAt_iff.mp right with ⟨rightNegative, n, _, rfl, rfl⟩
  rw [finite_mul_finite]
  exact position?_round_eq (signed_mul_signed leftNegative rightNegative m n) quantaPerOne_pos

/-- A position within the limits belongs to a finite number, and each limit to an infinity. -/
theorem standsAt_or_infinity (found : x.position? = some p) :
    x.StandsAt p ∨ ∃ negative, x = .infinity negative ∧ p = signed negative quantaLimit := by
  cases x with
  | nan => contradiction
  | infinity negative => exact Or.inr ⟨negative, rfl, (Option.some.inj found).symm⟩
  | finite => exact Or.inl ⟨rfl, found⟩

/-- The quotient by a positive number.  An infinity stays where it stands. -/
theorem position?_div {divisor : Nat} (left : x.position? = some p) (right : y.StandsAt divisor)
    (positive : 0 < divisor) :
    (x / y).position? =
      some (if p.natAbs < quantaLimit then cut (rounded (p * quantaPerOne) divisor) else p) := by
  rcases right.exists_finite positive with ⟨representable, rfl⟩
  rcases standsAt_or_infinity left with standing | ⟨negative, rfl, rfl⟩
  · rw [if_pos standing.natAbs_lt]
    rcases standsAt_iff.mp standing with ⟨negative, quanta, _, rfl, rfl⟩
    rw [finite_div_finite _ _ _ _ positive]
    apply position?_round_eq _ positive
    rw [Bool.bne_false, signed_mul]
  · rw [natAbs_signed, if_neg (Nat.lt_irrefl _)]
    change some (signed (negative != false) quantaLimit) = _
    rw [Bool.bne_false]

end Binary64
end Chronometry
