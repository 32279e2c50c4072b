import Chronometry.Proofs.Binary64.Whole

/-!
# Numbers in words of 128 bits

A number is turned into a signed word of 128 bits by dropping its fraction.  A number beyond the
ends of the word becomes the nearer end, which is a silent error: the word then holds something else
than the whole part of the number.  The whole part, the fraction and the number without its sign, by
which such a conversion is guarded, are numbers again, and they are computed here as numbers, with a
rounding at every step that could need one.
-/

namespace Chronometry
namespace Binary64

/-! ## Parts of a number -/

/-- The whole part of a number.  What is not finite has no other part. -/
def wholePart : Binary64 -> Binary64
  | .finite negative quanta _ => round negative (quanta / quantaPerOne * quantaPerOne) 1
  | x => x

/-- What a number has beyond its whole part. -/
def fraction (x : Binary64) : Binary64 :=
  x - x.wholePart

/-- A number without its sign. -/
def unsigned : Binary64 -> Binary64
  | .nan => .nan
  | .infinity _ => .infinity false
  | .finite _ quanta representable => .finite false quanta representable

/-- Less by value; nothing is less than what is not a number. -/
def less (x y : Binary64) : Bool :=
  x.order? y == some .lt

/-- At least as great by value. -/
def atLeast (x y : Binary64) : Bool :=
  x.order? y == some .gt || x.order? y == some .eq

variable {x y : Binary64} {p q : Int}

theorem signed_div (negative : Bool) (m n : Nat) :
    signed negative (m / n) = (signed negative m).tdiv n := by
  cases negative <;> simp [signed, Int.neg_tdiv]

/-- Dropping the fraction keeps the bits: a number that has a fraction is too small to lose any. -/
theorem kept_div_mul_quantaPerOne {quanta : Nat} (kept : Kept quanta) :
    Kept (quanta / quantaPerOne * quantaPerOne) := by
  by_cases small : quanta / quantaPerOne ≤ Nat.pow 2 53
  · exact kept_of_le small
  · have keptPosition : Kept (quanta : Int).natAbs := by rwa [Int.natAbs_natCast]
    have many : Nat.pow 2 52 ≤ quanta / quantaPerOne := by
      simp only [Nat.pow_eq] at *
      omega
    have large : Nat.pow 2 52 * quantaPerOne ≤ (quanta : Int).natAbs := by
      rw [Int.natAbs_natCast]
      exact Nat.le_trans (Nat.mul_le_mul_right _ many) (Nat.div_mul_le_self _ _)
    rcases exists_whole_of_kept keptPosition large with ⟨whole, multiple⟩
    have divides : quantaPerOne ∣ quanta := by
      rw [← Int.natCast_dvd_natCast, multiple]
      exact Int.dvd_mul_left _ _
    have same := Nat.div_mul_cancel divides
    exact same.symm ▸ kept

theorem wholePart_standsAt (standing : x.StandsAt p) :
    x.wholePart.StandsAt (p.tdiv quantaPerOne * quantaPerOne) := by
  rcases standsAt_iff.mp standing with ⟨negative, quanta, representable, rfl, rfl⟩
  have wholeRepresentable : Representable (quanta / quantaPerOne * quantaPerOne) :=
    ⟨kept_div_mul_quantaPerOne representable.1,
      Nat.lt_of_le_of_lt (Nat.div_mul_le_self _ _) representable.2⟩
  rw [wholePart, round_of_representable negative wholeRepresentable, ← signed_div, ← signed_mul]
  exact ⟨rfl, rfl⟩

theorem unsigned_standsAt (standing : x.StandsAt p) : x.unsigned.StandsAt p.natAbs := by
  rcases standsAt_iff.mp standing with ⟨negative, quanta, representable, rfl, rfl⟩
  rw [natAbs_signed]
  exact ⟨rfl, rfl⟩

theorem rounded_one_eq_zero_iff {value : Int} : rounded value 1 = 0 ↔ value = 0 := by
  constructor
  · intro zero
    have size := natAbs_rounded value 1
    rw [zero] at size
    apply Classical.byContradiction
    intro nonzero
    exact roundQuanta_ne_zero (Int.natAbs_pos.mpr nonzero) size.symm
  · rintro rfl
    exact rounded_zero Nat.one_pos

/-- The fraction is zero for whole numbers and no others.  It is rounded when it is computed, but
not to zero. -/
theorem fraction_sameValue_zero_iff (standing : x.StandsAt p) :
    x.fraction.sameValue 0 = true ↔ (quantaPerOne : Int) ∣ p := by
  have rest : p + -(p.tdiv quantaPerOne * quantaPerOne) = p.tmod quantaPerOne := by
    have division := Int.tdiv_mul_add_tmod p quantaPerOne
    omega
  have below : (p.tmod quantaPerOne).natAbs ≤ quantaPerOne := by
    rw [Int.natAbs_tmod, Int.natAbs_natCast]
    exact Nat.le_of_lt (Nat.mod_lt _ quantaPerOne_pos)
  have inside : quantaPerOne < quantaLimit := by decide +kernel
  have within : (rounded (p.tmod quantaPerOne) 1).natAbs < quantaLimit :=
    Nat.lt_of_le_of_lt
      (natAbs_rounded_le kept_quantaPerOne Nat.one_pos (by rwa [Nat.mul_one])) inside
  have difference :=
    add_standsAt standing (neg_standsAt (wholePart_standsAt standing)) (by rwa [rest])
  have zero : (0 : Binary64).StandsAt 0 := by
    change (ofInt 0).StandsAt 0
    rw [ofInt_zero]
    exact zero_standsAt false
  rw [rest] at difference
  change (x + -x.wholePart).sameValue 0 = true ↔ _
  rw [sameValue_of_standsAt_iff difference zero, rounded_one_eq_zero_iff]
  exact Int.dvd_iff_tmod_eq_zero.symm

theorem less_iff_of_standsAt (left : x.StandsAt p) (right : y.StandsAt q) :
    x.less y = true ↔ p < q := by
  rw [less, order?_of_standsAt left right, beq_iff_eq, Option.some_inj, Int.compare_eq_lt]

theorem atLeast_iff_of_standsAt (left : x.StandsAt p) (right : y.StandsAt q) :
    x.atLeast y = true ↔ q ≤ p := by
  rw [atLeast, order?_of_standsAt left right, Bool.or_eq_true, beq_iff_eq, beq_iff_eq,
    Option.some_inj, Option.some_inj, Int.compare_eq_gt, Int.compare_eq_eq]
  omega

/-! ## Words -/

/-- The signed word of 128 bits that is made from a number.  It is zero for what is not a number. -/
def toWord : Binary64 -> BitVec 128
  | .nan => 0
  | .infinity negative => if negative then BitVec.intMin 128 else BitVec.intMax 128
  | .finite negative quanta _ =>
    BitVec.ofInt 128
      (max (-Nat.pow 2 127) (min (Nat.pow 2 127 - 1) (signed negative (quanta / quantaPerOne))))

/-- A number is converted to the word of its whole part, and not to one of the ends in its place. -/
def ConvertsToWord (x : Binary64) : Prop :=
  ∃ whole, x.truncated? = some whole ∧ x.toWord.toInt = whole

theorem toInt_ofInt_of_lt {value : Int} (fits : value.natAbs < Nat.pow 2 127) :
    (BitVec.ofInt 128 value).toInt = value := by
  rw [BitVec.toInt_ofInt]
  simp only [Nat.pow_eq] at fits
  exact Int.bmod_eq_of_le (by omega) (by omega)

theorem truncated?_of_standsAt (standing : x.StandsAt p) :
    x.truncated? = some (p.tdiv quantaPerOne) := by
  rcases standsAt_iff.mp standing with ⟨negative, quanta, representable, rfl, rfl⟩
  rw [truncated?, signed_div]

/-- Numbers below the end of the word are converted to their whole parts. -/
theorem toInt_toWord (standing : x.StandsAt p)
    (fits : (p.tdiv quantaPerOne).natAbs < Nat.pow 2 127) :
    x.toWord.toInt = p.tdiv quantaPerOne := by
  rcases standsAt_iff.mp standing with ⟨negative, quanta, representable, rfl, rfl⟩
  rw [← signed_div] at fits ⊢
  have inside : max (-(Nat.pow 2 127 : Nat) : Int) (min ((Nat.pow 2 127 : Nat) - 1)
      (signed negative (quanta / quantaPerOne))) = signed negative (quanta / quantaPerOne) := by
    omega
  rw [toWord, inside, toInt_ofInt_of_lt fits]

theorem convertsToWord (standing : x.StandsAt p)
    (fits : (p.tdiv quantaPerOne).natAbs < Nat.pow 2 127) :
    x.ConvertsToWord :=
  ⟨_, truncated?_of_standsAt standing, toInt_toWord standing fits⟩

/-- The greatest word as a number: it is rounded to the first number that no word holds. -/
def wordLimit : Binary64 :=
  ofInt (Nat.pow 2 127 - 1)

theorem wordLimit_standsAt : wordLimit.StandsAt (Nat.pow 2 127 * quantaPerOne : Nat) := by
  decide +kernel

theorem infinity_atLeast_wordLimit : (infinity false).atLeast wordLimit = true := by
  decide +kernel

end Binary64
end Chronometry
