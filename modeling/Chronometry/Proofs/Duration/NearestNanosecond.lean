import Chronometry.Proofs.Binary64.Million
import Chronometry.Proofs.Duration.Nanoseconds
import Chronometry.Proofs.Order.Comparison

/-!
# The nearest nanosecond

The product of a number of milliseconds with a million is rounded to a number before it is rounded
to a whole number of nanoseconds.  The first rounding can carry the product over the middle between
two nanoseconds, and beyond `2 ^ 53` it moves it by more than half a one.  The length is at the
nearest nanosecond where the product is a number, and where the numbers are the whole numbers;
elsewhere below `2 ^ 53` it is at most three quarters of a nanosecond away.
-/

namespace Chronometry
namespace Duration

open Binary64

variable {milliseconds : Binary64} {d : Duration} {position product : Int}

/-- How a length keeps a product with a million, which is given in quanta. -/
structure KeepsProduct (length product : Int) : Prop where
  near : Nat.pow 2 53 * (2 * (length * quantaPerOne - product).natAbs) ≤
    Nat.pow 2 53 * quantaPerOne + 2 * product.natAbs
  below : product.natAbs ≤ Nat.pow 2 53 * quantaPerOne ->
    4 * (length * quantaPerOne - product).natAbs ≤ 3 * quantaPerOne
  half : Kept product.natAbs ∨
      Nat.pow 2 52 * quantaPerOne ≤ product.natAbs ∧
        product.natAbs ≤ Nat.pow 2 53 * quantaPerOne ->
    2 * (length * quantaPerOne - product).natAbs ≤ quantaPerOne

/-- Up to `2 ^ 53` whole numbers are numbers, and the first rounding goes no further than to the
nearest of them. -/
theorem rounded_error_le_half (within : product.natAbs ≤ Nat.pow 2 53 * quantaPerOne) :
    2 * (rounded product 1 - product).natAbs ≤ quantaPerOne := by
  have exact : Exact (nearestWhole product) := exact_of_le (natAbs_nearestWhole_le within)
  have closest := rounded_nearest product Nat.one_pos exact
  rw [Int.natCast_one, Int.mul_one, Int.mul_one] at closest
  have error := nearestWhole_error product
  omega

/-- From `2 ^ 52` on the first rounding leaves nothing to the second one. -/
theorem nearestWhole_rounded_of_large (large : Nat.pow 2 52 * quantaPerOne ≤ product.natAbs) :
    nearestWhole (rounded product 1) * quantaPerOne = rounded product 1 := by
  have kept : Kept (Nat.pow 2 52 * quantaPerOne) := kept_of_le (by decide)
  have reached := le_natAbs_rounded kept Nat.one_pos (show _ ≤ product.natAbs by omega)
  exact nearestWhole_of_large (kept_rounded product 1) (by omega)

theorem keepsProduct_nearestWhole (product : Int) :
    KeepsProduct (nearestWhole (rounded product 1)) product := by
  have error := rounded_one_error product
  have nearest := nearestWhole_error (rounded product 1)
  have half (large : Nat.pow 2 52 * quantaPerOne ≤ product.natAbs)
      (within : product.natAbs ≤ Nat.pow 2 53 * quantaPerOne) :
      2 * (nearestWhole (rounded product 1) * quantaPerOne - product).natAbs ≤ quantaPerOne := by
    rw [nearestWhole_rounded_of_large large]
    exact rounded_error_le_half within
  refine ⟨?_, ?_, ?_⟩
  · simp only [Nat.pow_eq] at *
    omega
  · intro within
    by_cases large : Nat.pow 2 52 * quantaPerOne ≤ product.natAbs
    · have apart := half large within
      omega
    · have quarter := rounded_error_below 51 Nat.one_pos (show product.natAbs < _ by
        simp only [Nat.pow_eq] at *
        omega)
      rw [Int.natCast_one, Int.mul_one] at quarter
      simp only [Nat.pow_eq] at quarter
      omega
  · rintro (kept | ⟨large, within⟩)
    · rwa [rounded_of_kept kept] at nearest ⊢
    · exact half large within

/-! ## Whole milliseconds -/

theorem exact_million_mul {whole : Int} (small : whole.natAbs ≤ 576460752303) :
    Exact (whole * 1000000) := by
  have kept : Kept (whole.natAbs * quantaPerOne * 1000000) := kept_milliseconds (by
    simp only [Nat.pow_eq]
    omega)
  rw [Exact, Int.mul_right_comm, Int.natAbs_mul, Int.natAbs_mul, Int.natAbs_natCast]
  exact kept

/-- Whole milliseconds are kept exactly when their nanoseconds are a number of the format. -/
theorem ofNanoseconds_eq_iff_exact {whole : Int}
    (standing : milliseconds.StandsAt (whole * quantaPerOne))
    (made : ofMilliseconds milliseconds = .ok d) :
    ofNanoseconds (whole * 1000000) = .ok d ↔ Exact (whole * 1000000) := by
  have found := balanced?_of_standsAt standing made
  have length := length_of_balanced? found
  constructor
  · intro kept
    have exact := exact_length_of_ofMilliseconds standing made
    rwa [length_of_balanced? (ofNanoseconds_eq_ok_iff.mp kept)] at exact
  · intro exact
    rw [inNanoseconds, Int.mul_right_comm, exact.rounded_eq, nearestWhole_whole] at found
    exact ofNanoseconds_eq_ok_iff.mpr found

/-- What a duration keeps of the milliseconds that it was made from.  Its length is within half a
nanosecond, and one part in `2 ^ 53`, of the exact product with a million, and within half a
nanosecond where the product is a number or the numbers are the whole numbers.  Whole milliseconds
are kept exactly if their nanoseconds are a number, and so they are up to `576460752303`. -/
theorem ofMilliseconds_keeps_product (made : ofMilliseconds milliseconds = .ok d) :
    ∃ position, milliseconds.StandsAt position ∧ KeepsProduct d.length (position * 1000000) ∧
      ∀ whole, milliseconds.whole? = some whole ->
        (ofNanoseconds (whole * 1000000) = .ok d ↔ Exact (whole * 1000000)) ∧
          (whole.natAbs ≤ 576460752303 -> ofNanoseconds (whole * 1000000) = .ok d) := by
  rcases exists_standsAt (ofMilliseconds_eq_ok_iff.mp made).1 with ⟨position, standing⟩
  refine ⟨position, standing, ?_, ?_⟩
  · rw [length_of_balanced? (balanced?_of_standsAt standing made)]
    exact keepsProduct_nearestWhole _
  · intro whole found
    obtain rfl := (whole?_eq_some_iff_of_standsAt standing).mp found
    have kept := ofNanoseconds_eq_iff_exact standing made
    exact ⟨kept, fun small => kept.mpr (exact_million_mul small)⟩

/-- The last whole number of milliseconds below which all are kept. -/
theorem eighteen_years_of_milliseconds_are_kept :
    ∃ d,
      ofMilliseconds (ofInt 576460752303) = .ok d ∧ ofNanoseconds 576460752303000000 = .ok d := by
  have made : ofMilliseconds (ofInt 576460752303) =
      .ok ⟨⟨0, 0, 0, 0, 0, 0, 0, 576460752303, 0, 0⟩, by decide, by decide⟩ := by
        decide +kernel
  rcases ofMilliseconds_keeps_product made with ⟨_, _, _, whole⟩
  have kept := (whole 576460752303 (by decide +kernel)).2 (by decide)
  exact ⟨_, made, kept⟩

/-- The number nearest to half a millionth of a millisecond is less than half a nanosecond, and
becomes one.  Two whole milliseconds more than are safe become 64 nanoseconds less than they are. -/
theorem nearest_nanosecond_is_missed :
    (∃ d : Duration, ((1 : Binary64) / 2000000).StandsAt (rounded quantaPerOne 2000000) ∧
      ofMilliseconds (1 / 2000000) = .ok d ∧
      quantaPerOne <
        2 * (d.length * quantaPerOne - rounded quantaPerOne 2000000 * 1000000).natAbs) ∧
    ∃ d e : Duration, (ofInt 576460752305).whole? = some 576460752305 ∧
      ofMilliseconds (ofInt 576460752305) = .ok d ∧
      ofNanoseconds (576460752305 * 1000000) = .ok e ∧ d.length + 64 = e.length ∧
        d.sameLength e = false := by
  refine ⟨⟨⟨⟨0, 0, 0, 0, 0, 0, 0, 0, 0, 1⟩, by decide, by decide⟩, ?_⟩,
    ⟨⟨0, 0, 0, 0, 0, 0, 0, 576460752304, 999, 936⟩, by decide, by decide⟩,
    ⟨⟨0, 0, 0, 0, 0, 0, 0, 576460752305, 0, 0⟩, by decide, by decide⟩, ?_⟩
  all_goals decide +kernel

end Duration
end Chronometry
