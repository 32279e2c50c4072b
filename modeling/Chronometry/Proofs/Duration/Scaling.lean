import Chronometry.Proofs.Duration.NearestNanosecond
import Chronometry.Proofs.Duration.Total
import Chronometry.Proofs.Registry.Standard

/-!
# Scaling and dividing again

A duration is multiplied and divided through its total of milliseconds.  Multiplied by a whole
number and divided by it again, the total is rounded six times on the way, and the roundings need
not cancel each other: they do not even for the factor one.  They do up to a billion milliseconds,
and wherever the nanoseconds of both durations are numbers.

The length between the two operations is a whole number of nanoseconds, but nothing is rounded
there.  If the product is less than `2 ^ 53` nanoseconds, everything is exact, and if it is not, the
numbers are whole.
-/

namespace Chronometry
namespace Duration

open Binary64

variable {d p r : Duration} {k : Binary64} {length whole factor : Int} {parts : Nat}

/-! ## Positions -/

/-- The position of the milliseconds of a length that is multiplied. -/
def multipliedPosition (length factor : Int) : Int :=
  rounded (totalPosition length * factor) 1

/-- The position of the milliseconds of a length that is divided. -/
def dividedPosition (length divisor : Int) : Int :=
  rounded (totalPosition length * divisor.sign) divisor.natAbs

theorem eq_ok_of_map_duration {outcome : Except Error Duration}
    (answered : Value.duration <$> outcome = .ok (.duration d)) : outcome = .ok d := by
  cases outcome with
  | error => contradiction
  | ok e => rw [Value.duration.inj (Except.ok.inj answered)]

theorem length_of_multiplied (plain : ¬d.HasCalendarFields)
    (standing : k.StandsAt (factor * quantaPerOne))
    (multiplied : Registry.standard.apply .multiply (.duration d) (.number k) = .ok (.duration p)) :
    p.length = nearestWhole (inNanoseconds (multipliedPosition d.length factor)) ∧
      (multipliedPosition d.length factor).natAbs < 633318697598976 * quantaPerOne ∧
        ¬p.HasCalendarFields := by
  rcases totalMilliseconds_standsAt plain with ⟨total, answered, totalStanding⟩
  rw [Registry.apply_multiply_duration_number, answered] at multiplied
  have made : ofMilliseconds (total * k) = .ok p := eq_ok_of_map_duration multiplied
  have product := mul_whole_standsAt totalStanding standing (ofMilliseconds_eq_ok_iff.mp made).1
  have found := balanced?_of_standsAt product made
  exact ⟨length_of_balanced? found, natAbs_position_lt_of_ofMilliseconds product made,
    not_hasCalendarFields_of_balanced? found⟩

theorem length_of_divided (plain : ¬d.HasCalendarFields)
    (standing : k.StandsAt (factor * quantaPerOne)) (nonzero : factor ≠ 0)
    (divided : Registry.standard.apply .divide (.duration d) (.number k) = .ok (.duration r)) :
    r.length = nearestWhole (inNanoseconds (dividedPosition d.length factor)) ∧
      ¬r.HasCalendarFields := by
  rcases totalMilliseconds_standsAt plain with ⟨total, answered, totalStanding⟩
  rw [Registry.apply_divide_duration_number, answered, Arithmetic.divisor] at divided
  by_cases zero : k.isZero = true
  · rw [if_pos zero] at divided
    contradiction
  · rw [if_neg zero] at divided
    have made : ofMilliseconds (total / k) = .ok r := eq_ok_of_map_duration divided
    have quotient :=
      div_whole_standsAt totalStanding standing nonzero (ofMilliseconds_eq_ok_iff.mp made).1
    have found := balanced?_of_standsAt quotient made
    exact ⟨length_of_balanced? found, not_hasCalendarFields_of_balanced? found⟩

/-! ## Whole milliseconds, multiplied -/

/-- Where the total is exact, so is the product, as long as it is a small whole number. -/
theorem multipliedPosition_of_exact (exact : Exact (whole * 1000000))
    (small : whole.natAbs ≤ Nat.pow 2 53) (few : (whole * factor).natAbs ≤ Nat.pow 2 53) :
    multipliedPosition (whole * 1000000) factor = whole * factor * quantaPerOne := by
  rw [multipliedPosition, totalPosition_of_exact exact small, Int.mul_right_comm]
  exact (exact_of_le few).rounded_eq

theorem multipliedPosition_close (whole factor : Int) :
    Close 26 (multipliedPosition (whole * 1000000) factor) (whole * factor * quantaPerOne) := by
  have nanoseconds := totalPosition_close (whole * 1000000)
  rw [Int.mul_right_comm] at nanoseconds
  have total : Close 17 (totalPosition (whole * 1000000)) (whole * quantaPerOne) :=
    nanoseconds.of_mul (by decide)
  have product := total.mul factor
  rw [Int.mul_right_comm] at product
  exact product.rounding (by decide)

/-- The limit of durations is a limit of the product. -/
theorem natAbs_product_le
    (within : (multipliedPosition (whole * 1000000) factor).natAbs <
      633318697598976 * quantaPerOne) :
    (whole * factor).natAbs ≤ Nat.pow 2 51 := by
  have size := (multipliedPosition_close whole factor).le_natAbs (by decide)
  rw [Int.natAbs_mul, Int.natAbs_natCast] at size
  apply Nat.le_of_mul_le_mul_right _ quantaPerOne_pos
  simp only [Nat.pow_eq]
  omega

/-- The position in nanoseconds of a product, before it is rounded to a whole number. -/
theorem inNanoseconds_multipliedPosition_close
    (close : Close parts (multipliedPosition (whole * 1000000) factor)
      (whole * factor * quantaPerOne))
    (few : parts ≤ Nat.pow 2 53) :
    Close (parts + 9) (inNanoseconds (multipliedPosition (whole * 1000000) factor))
      (whole * factor * 1000000 * quantaPerOne) := by
  have nanoseconds := close.mul 1000000
  rw [Int.mul_right_comm] at nanoseconds
  exact nanoseconds.rounding few

theorem inNanoseconds_multipliedPosition_of_exact (exact : Exact (whole * 1000000))
    (small : whole.natAbs ≤ Nat.pow 2 53) (few : (whole * factor).natAbs ≤ Nat.pow 2 53)
    (product : Exact (whole * factor * 1000000)) :
    inNanoseconds (multipliedPosition (whole * 1000000) factor) =
      whole * factor * 1000000 * quantaPerOne := by
  rw [inNanoseconds, multipliedPosition_of_exact exact small few, Int.mul_right_comm,
    product.rounded_eq]

/-- The product is a whole number of nanoseconds before it is rounded to one. -/
theorem nearestWhole_multiplied (nonzero : factor ≠ 0) :
    nearestWhole (inNanoseconds (multipliedPosition (whole * 1000000) factor)) * quantaPerOne =
      inNanoseconds (multipliedPosition (whole * 1000000) factor) := by
  by_cases short : (whole * factor * 1000000).natAbs ≤ Nat.pow 2 53
  · have fewer : whole.natAbs ≤ (whole * factor).natAbs := by
      rw [Int.natAbs_mul]
      exact Nat.le_mul_of_pos_right _ (Int.natAbs_pos.mpr nonzero)
    have exact : Exact (whole * 1000000) := exact_of_le (by omega)
    rw [inNanoseconds_multipliedPosition_of_exact exact (by omega) (by omega) (exact_of_le short),
      nearestWhole_whole]
  · have close :=
      inNanoseconds_multipliedPosition_close (multipliedPosition_close whole factor) (by decide)
    have size := close.le_natAbs (by decide)
    rw [Int.natAbs_mul, Int.natAbs_natCast] at size
    have large := Nat.mul_le_mul_right quantaPerOne (Nat.le_of_not_le short)
    apply nearestWhole_of_large (kept_inNanoseconds _)
    simp only [Nat.pow_eq] at *
    omega

/-! ## Divided again -/

/-- What is divided is close to the product, and so the quotient is close to what was multiplied. -/
theorem inNanoseconds_dividedPosition_close (exact : Exact length)
    (close : Close parts (length * quantaPerOne) (whole * factor * 1000000 * quantaPerOne))
    (few : parts ≤ Nat.pow 2 52) (nonzero : factor ≠ 0)
    (moderate : factor.natAbs ≤ Nat.pow 2 64) :
    Close (parts + 27) (inNanoseconds (dividedPosition length factor))
      (whole * 1000000 * quantaPerOne) := by
  have positive : 0 < factor.natAbs := Int.natAbs_pos.mpr nonzero
  have nanoseconds :=
    close.quotient (by simp only [Nat.pow_eq] at *; omega) (show 0 < 1000000 by decide) (by decide)
  have total : Close (parts + 9) (totalPosition length) (whole * factor * quantaPerOne) := by
    rw [Int.mul_right_comm] at nanoseconds
    rw [totalPosition, exact.rounded_eq]
    exact nanoseconds.of_mul (by decide)
  have signed := total.mul factor.sign
  have magnitude : whole * factor * quantaPerOne * factor.sign =
      whole * factor.natAbs * quantaPerOne := by
    rw [Int.mul_right_comm, Int.mul_assoc whole, Int.mul_sign_self]
  rw [magnitude] at signed
  have divided := signed.quotient (by simp only [Nat.pow_eq] at *; omega) positive moderate
  rw [Int.mul_right_comm] at divided
  have quotient : Close (parts + 18) (dividedPosition length factor) (whole * quantaPerOne) :=
    divided.of_mul (by omega)
  have milliseconds := quotient.mul 1000000
  rw [Int.mul_right_comm] at milliseconds
  exact milliseconds.rounding (by simp only [Nat.pow_eq] at *; omega)

theorem inNanoseconds_dividedPosition_of_exact (exact : Exact (whole * 1000000))
    (product : Exact (whole * factor * 1000000)) (nonzero : factor ≠ 0)
    (small : whole.natAbs ≤ Nat.pow 2 53) (few : (whole * factor).natAbs ≤ Nat.pow 2 53) :
    inNanoseconds (dividedPosition (whole * factor * 1000000) factor) =
      whole * 1000000 * quantaPerOne := by
  have kept : Kept (whole * quantaPerOne).natAbs := exact_of_le small
  have magnitude : whole * factor * quantaPerOne * factor.sign =
      whole * quantaPerOne * factor.natAbs := by
    rw [Int.mul_right_comm, Int.mul_assoc whole, Int.mul_sign_self, Int.mul_right_comm]
  have quotient : dividedPosition (whole * factor * 1000000) factor = whole * quantaPerOne := by
    rw [dividedPosition, totalPosition_of_exact product few, magnitude]
    exact rounded_mul kept (Int.natAbs_pos.mpr nonzero)
  rw [inNanoseconds, quotient, Int.mul_right_comm, exact.rounded_eq]

/-! ## There and back -/

/-- How a duration of whole milliseconds comes back from a whole factor. -/
structure ScalesBack (d p r : Duration) (whole factor : Int) : Prop where
  near : Nat.pow 2 50 * (r.length - d.length).natAbs ≤ d.length.natAbs + Nat.pow 2 49
  short : whole.natAbs ≤ 1000000000 -> d.sameLength r = true
  exact : Exact (whole * 1000000) -> Exact (whole * factor * 1000000) -> d.sameLength r = true
  representable : d.sameLength r = true -> Exact (whole * 1000000)
  once : factor = 1 -> (d.sameLength p = true ↔ Exact (whole * 1000000))

/-- The length that comes back. -/
def returnedLength (length factor : Int) : Int :=
  nearestWhole (inNanoseconds
    (dividedPosition (nearestWhole (inNanoseconds (multipliedPosition length factor))) factor))

section Returned

variable (nonzero : factor ≠ 0) (small : whole.natAbs ≤ Nat.pow 2 53)
  (few : (whole * factor).natAbs ≤ Nat.pow 2 51)

include nonzero few

theorem returned_close (some : whole ≠ 0)
    (close : Close parts (multipliedPosition (whole * 1000000) factor)
      (whole * factor * quantaPerOne))
    (links : parts ≤ Nat.pow 2 51) :
    Close (parts + 36) (inNanoseconds (dividedPosition
      (nearestWhole (inNanoseconds (multipliedPosition (whole * 1000000) factor))) factor))
      (whole * 1000000 * quantaPerOne) := by
  have product :=
    inNanoseconds_multipliedPosition_close close (by simp only [Nat.pow_eq] at *; omega)
  rw [← nearestWhole_multiplied nonzero] at product
  have moderate : factor.natAbs ≤ Nat.pow 2 64 := by
    have less : factor.natAbs ≤ (whole * factor).natAbs := by
      rw [Int.natAbs_mul]
      exact Nat.le_mul_of_pos_left _ (Int.natAbs_pos.mpr some)
    exact Nat.le_trans less (Nat.le_trans few (by decide))
  exact inNanoseconds_dividedPosition_close (exact_nearestWhole (kept_inNanoseconds _)) product
    (by simp only [Nat.pow_eq] at *; omega) nonzero moderate

include small

theorem returnedLength_of_exact (exact : Exact (whole * 1000000))
    (product : Exact (whole * factor * 1000000)) :
    returnedLength (whole * 1000000) factor = whole * 1000000 := by
  have fewer := Nat.le_trans few (show Nat.pow 2 51 ≤ Nat.pow 2 53 by decide)
  rw [returnedLength, inNanoseconds_multipliedPosition_of_exact exact small fewer product,
    nearestWhole_whole, inNanoseconds_dividedPosition_of_exact exact product nonzero small fewer,
    nearestWhole_whole]

theorem returnedLength_near :
    Nat.pow 2 50 * (returnedLength (whole * 1000000) factor - whole * 1000000).natAbs ≤
      (whole * 1000000).natAbs + Nat.pow 2 49 := by
  by_cases some : whole = 0
  · subst some
    have nothing : Exact 0 := by decide +kernel
    rw [returnedLength_of_exact nonzero small few nothing (by rwa [Int.zero_mul, Int.zero_mul])]
    exact Nat.zero_le _
  · have close :=
      returned_close nonzero few some (multipliedPosition_close whole factor) (by decide)
    exact nearestWhole_near (close.mono (by decide))

/-- Up to a billion milliseconds the first product is exact, and the four roundings after it are not
enough for half a nanosecond. -/
theorem returnedLength_of_short (short : whole.natAbs ≤ 1000000000) :
    returnedLength (whole * 1000000) factor = whole * 1000000 := by
  have exact : Exact (whole * 1000000) := exact_million_mul (by omega)
  by_cases some : whole = 0
  · subst some
    exact returnedLength_of_exact nonzero small few exact (by rwa [Int.zero_mul])
  · have fewer := Nat.le_trans few (show Nat.pow 2 51 ≤ Nat.pow 2 53 by decide)
    have product :
        Close 0 (multipliedPosition (whole * 1000000) factor) (whole * factor * quantaPerOne) := by
      rw [multipliedPosition_of_exact exact small fewer]
      exact Close.refl _
    have close := returned_close nonzero few some product (by decide)
    apply nearestWhole_of_close close
    simp only [Nat.pow_eq]
    omega

end Returned

/-- A duration of whole milliseconds is multiplied by a whole number and divided by it again.  It
comes back with a length that differs little.  It comes back as it was if it is no longer than a
billion milliseconds, or if its nanoseconds and those of the product are numbers; and if its own are
not numbers it does not, and the factor one changes it as well. -/
theorem multiplied_and_divided (plain : ¬d.HasCalendarFields)
    (milliseconds : d.length = whole * 1000000) (integral : k.whole? = some factor)
    (nonzero : factor ≠ 0)
    (multiplied : Registry.standard.apply .multiply (.duration d) (.number k) = .ok (.duration p))
    (divided : Registry.standard.apply .divide (.duration p) (.number k) = .ok (.duration r)) :
    ScalesBack d p r whole factor := by
  rcases exists_standsAt (isFinite_of_whole? integral) with ⟨position, standing⟩
  obtain rfl := (whole?_eq_some_iff_of_standsAt standing).mp integral
  rcases length_of_multiplied plain standing multiplied
    with ⟨productLength, within, productPlain⟩
  rcases length_of_divided productPlain standing nonzero divided
    with ⟨quotientLength, quotientPlain⟩
  rw [milliseconds] at productLength within
  have back : r.length = returnedLength (whole * 1000000) factor := by
    rw [quotientLength, productLength, returnedLength]
  have few := natAbs_product_le within
  have small : whole.natAbs ≤ Nat.pow 2 53 := by
    have length := d.natAbs_length_le
    rw [milliseconds] at length
    simp only [Nat.pow_eq] at *
    omega
  have same : d.sameLength r = true ↔
      whole * 1000000 = returnedLength (whole * 1000000) factor := by
    rw [sameLength_iff plain quotientPlain, milliseconds, back]
  refine ⟨?_, ?_, ?_, ?_, ?_⟩
  · rw [back, milliseconds]
    exact returnedLength_near nonzero small few
  · intro short
    rw [same, returnedLength_of_short nonzero small few short]
  · intro exact product
    rw [same, returnedLength_of_exact nonzero small few exact product]
  · intro returned
    rw [same.mp returned]
    exact exact_nearestWhole (kept_inNanoseconds _)
  · rintro rfl
    rw [sameLength_iff plain productPlain, milliseconds, productLength]
    constructor
    · intro kept
      rw [kept]
      exact exact_nearestWhole (kept_inNanoseconds _)
    · intro exact
      have fewer := Nat.le_trans few (show Nat.pow 2 51 ≤ Nat.pow 2 53 by decide)
      rw [inNanoseconds_multipliedPosition_of_exact exact small fewer (by rwa [Int.mul_one]),
        nearestWhole_whole, Int.mul_one]

/-- A billion milliseconds come back from minus three billion. -/
theorem billion_milliseconds_come_back :
    ∃ d p r : Duration, d.length = 1000000000 * 1000000 ∧
      Registry.standard.apply .multiply (.duration d) (.number (ofInt (-3))) = .ok (.duration p) ∧
      Registry.standard.apply .divide (.duration p) (.number (ofInt (-3))) = .ok (.duration r) ∧
      d.sameLength r = true := by
  have multiplied : Registry.standard.apply .multiply
      (.duration ⟨⟨0, 0, 0, 0, 0, 0, 1000000, 0, 0, 0⟩, by decide, by decide⟩)
        (.number (ofInt (-3))) =
      .ok (.duration ⟨⟨0, 0, 0, 0, 0, 0, 0, -3000000000, 0, 0⟩, by decide, by decide⟩) := by
        decide +kernel
  have divided : Registry.standard.apply .divide
      (.duration ⟨⟨0, 0, 0, 0, 0, 0, 0, -3000000000, 0, 0⟩, by decide, by decide⟩)
        (.number (ofInt (-3))) =
      .ok (.duration ⟨⟨0, 0, 0, 0, 0, 0, 0, 1000000000, 0, 0⟩, by decide, by decide⟩) := by
        decide +kernel
  have back := multiplied_and_divided (show ¬_ by decide) (show _ = 1000000000 * 1000000 by decide)
    (show (ofInt (-3)).whole? = some (-3) by decide +kernel) (by decide) multiplied divided
  exact ⟨_, _, _, by decide, multiplied, divided, back.short (by decide)⟩

/-- The factor one loses 64 nanoseconds of a duration whose nanoseconds are not a number, and a
product whose nanoseconds are not a number can bring a nanosecond too many. -/
theorem scaling_does_not_return :
    (∃ d p r : Duration, d.length = 576460752305 * 1000000 ∧
      Registry.standard.apply .multiply (.duration d) (.number (ofInt 1)) = .ok (.duration p) ∧
      Registry.standard.apply .divide (.duration p) (.number (ofInt 1)) = .ok (.duration r) ∧
      d.sameLength p = false ∧ d.sameLength r = false) ∧
    ∃ d p r : Duration, d.length = 1694281791 * 1000000 ∧
      Registry.standard.apply .multiply (.duration d) (.number (ofInt 341)) = .ok (.duration p) ∧
      Registry.standard.apply .divide (.duration p) (.number (ofInt 341)) = .ok (.duration r) ∧
      d.sameLength r = false := by
  refine ⟨⟨⟨⟨0, 0, 0, 0, 0, 0, 0, 576460752305, 0, 0⟩, by decide, by decide⟩,
    ⟨⟨0, 0, 0, 0, 0, 0, 0, 576460752304, 999, 936⟩, by decide, by decide⟩,
    ⟨⟨0, 0, 0, 0, 0, 0, 0, 576460752304, 999, 936⟩, by decide, by decide⟩, ?_⟩,
    ⟨⟨0, 0, 0, 0, 0, 0, 0, 1694281791, 0, 0⟩, by decide, by decide⟩,
    ⟨⟨0, 0, 0, 0, 0, 0, 0, 577750090731, 0, 64⟩, by decide, by decide⟩,
    ⟨⟨0, 0, 0, 0, 0, 0, 0, 1694281791, 0, 1⟩, by decide, by decide⟩, ?_⟩
  all_goals decide +kernel

end Duration
end Chronometry
