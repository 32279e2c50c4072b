import Chronometry.Proofs.Duration.Counts

/-!
# Counts half way between two numbers

Whole milliseconds are counted in nanoseconds, and the count is rounded before it is divided by a
million.  Counts that fit a word and are no numbers lie between `2 ^ 59` and `2 ^ 64`, where numbers
are from 128 to 2048 nanoseconds apart.  The counts are multiples of 64, so that an error of
rounding is either half of this distance or less by 64.  The quotient forgives the smaller errors.
It does not forgive half a distance, unless the milliseconds lie in the upper part of the stretch,
where they have one bit less behind the point.
-/

namespace Chronometry

open Binary64

namespace DurationText

variable {low milliseconds : Nat}

/-- The milliseconds are a count of nanoseconds from `2 ^ (low + 20)` on that lies half way between
two numbers, and they are less than `2 ^ (low + 1)` themselves. -/
structure IsHalfway (low milliseconds : Nat) : Prop where
  started : Nat.pow 2 (low + 20) ≤ milliseconds * 1000000
  ended : milliseconds < Nat.pow 2 (low + 1)
  between : milliseconds % Nat.pow 2 (low - 38) = Nat.pow 2 (low - 39)

/-- One of the five stretches below the end of a word has the milliseconds half way between two
numbers. -/
def Halfway (milliseconds : Nat) : Prop :=
  ∃ low ∈ [39, 40, 41, 42, 43], IsHalfway low milliseconds

instance (low milliseconds : Nat) : Decidable (IsHalfway low milliseconds) :=
  decidable_of_iff
    (Nat.pow 2 (low + 20) ≤ milliseconds * 1000000 ∧ milliseconds < Nat.pow 2 (low + 1) ∧
      milliseconds % Nat.pow 2 (low - 38) = Nat.pow 2 (low - 39))
    ⟨fun ⟨started, ended, between⟩ => ⟨started, ended, between⟩,
      fun ⟨started, ended, between⟩ => ⟨started, ended, between⟩⟩

instance (milliseconds : Nat) : Decidable (Halfway milliseconds) :=
  inferInstanceAs (Decidable (∃ _ ∈ _, _))

/-! ## Rounding the count -/

/-- From `2 ^ 52` on, the spacing of numbers is a whole number. -/
theorem exists_wholeGrid {exponent : Nat} (coarse : 52 ≤ exponent) :
    ∃ shift, Nat.pow 2 (52 + shift) = Nat.pow 2 exponent * quantaPerOne ∧
      Nat.pow 2 (53 + shift) = 2 * (Nat.pow 2 exponent * quantaPerOne) ∧
      Nat.pow 2 shift = Nat.pow 2 (exponent - 52) * quantaPerOne := by
  rcases exists_grid exponent with ⟨shift, start, finish, spacing⟩
  have split : Nat.pow 2 exponent = Nat.pow 2 52 * Nat.pow 2 (exponent - 52) := by
    rw [Nat.pow_eq, Nat.pow_eq, Nat.pow_eq, ← Nat.pow_add, Nat.add_sub_cancel' coarse]
  rw [split, Nat.mul_assoc] at spacing
  exact ⟨shift, start, finish, Nat.eq_of_mul_eq_mul_left (Nat.two_pow_pos 52) spacing⟩

/-- From `2 ^ 52` on, a count is rounded to a whole count on the grid of its stretch. -/
theorem exists_wholePosition_eq {exponent count : Nat} (coarse : 52 ≤ exponent)
    (started : Nat.pow 2 exponent ≤ count) (ended : count < 2 * Nat.pow 2 exponent) :
    ∃ steps : Nat, wholePosition count = (Nat.pow 2 (exponent - 52) * steps * quantaPerOne : Nat) ∧
      2 * (((Nat.pow 2 (exponent - 52) * steps : Nat) : Int) - count).natAbs ≤
        Nat.pow 2 (exponent - 52) := by
  rcases exists_wholeGrid coarse with ⟨shift, start, finish, step⟩
  have above : ((Nat.pow 2 (52 + shift) : Nat) : Int) ≤ wholePosition count := by
    apply le_rounded _ Nat.one_pos
    · rw [start, Int.natCast_one, Int.mul_one]
      exact Int.ofNat_le.mpr (Nat.mul_le_mul_right _ started)
    · rw [Int.natAbs_natCast]
      exact kept_two_pow _
  have magnitude : ((wholePosition count).natAbs : Int) = wholePosition count :=
    Int.natAbs_of_nonneg (Int.le_trans (Int.natCast_nonneg _) above)
  rw [← magnitude] at above
  rcases dvd_of_gridStart_le (kept_rounded _ 1) (Int.ofNat_le.mp above) with ⟨steps, multiple⟩
  have position : wholePosition count =
      (Nat.pow 2 (exponent - 52) * steps * quantaPerOne : Nat) := by
    rw [Nat.mul_right_comm, ← step, ← multiple]
    exact magnitude.symm
  refine ⟨steps, position, ?_⟩
  have below : ((count * quantaPerOne : Nat) : Int).natAbs < Nat.pow 2 (53 + shift) * 1 := by
    rw [Int.natAbs_natCast, Nat.mul_one, finish, ← Nat.mul_assoc]
    exact Nat.mul_lt_mul_of_pos_right ended quantaPerOne_pos
  have error := rounded_half_error Nat.one_pos below
  rw [← wholePosition, position, Int.natCast_one, Int.mul_one, Nat.one_mul, step,
    Int.natCast_mul _ quantaPerOne, Int.natCast_mul count, ← Int.sub_mul, Int.natAbs_mul,
    Int.natAbs_natCast, ← Nat.mul_assoc] at error
  exact Nat.le_of_mul_le_mul_right error quantaPerOne_pos

theorem le_wholePosition {exponent count : Nat} (reached : Nat.pow 2 exponent * 1000000 ≤ count) :
    ((Nat.pow 2 exponent * 1000000 * quantaPerOne : Nat) : Int) ≤ wholePosition count := by
  rcases exists_grid exponent with ⟨shift, start, _, _⟩
  apply le_rounded _ Nat.one_pos
  · rw [Int.natCast_one, Int.mul_one]
    exact Int.ofNat_le.mpr (Nat.mul_le_mul_right _ reached)
  · rw [Int.natAbs_natCast, Nat.mul_right_comm, ← start]
    exact kept_million_mul shift

/-! ## Dividing by a million -/

/-- The error of a whole number of milliseconds as a quotient by a million. -/
theorem natAbs_quotient_error (milliseconds count : Nat) :
    ((milliseconds * quantaPerOne : Nat) * (1000000 : Nat) -
        (count * quantaPerOne : Nat) : Int).natAbs =
      ((milliseconds * 1000000 : Nat) - count : Int).natAbs * quantaPerOne := by
  rw [← Int.natCast_mul, Nat.mul_right_comm, Int.natCast_mul _ quantaPerOne, Int.natCast_mul count,
    ← Int.sub_mul, Int.natAbs_mul, Int.natAbs_natCast]

/-- An error of less than half a place of the milliseconds is forgiven. -/
theorem quotient_eq_of_near {count : Nat} (small : milliseconds ≤ Nat.pow 2 53)
    (started : Nat.pow 2 low ≤ milliseconds) (above : Nat.pow 2 low * 1000000 ≤ count)
    (near : Nat.pow 2 53 * ((milliseconds * 1000000 : Nat) - count : Int).natAbs <
      Nat.pow 2 low * 1000000) :
    rounded (count * quantaPerOne : Nat) 1000000 = (milliseconds * quantaPerOne : Nat) := by
  rcases exists_grid low with ⟨shift, start, _, spacing⟩
  apply rounded_eq_of_near shift (by rw [Int.natAbs_natCast]; exact kept_of_le small) (by decide)
  · rw [start]
    exact Int.ofNat_le.mpr (Nat.mul_le_mul_right _ started)
  · rw [start, ← Int.natCast_mul, Nat.mul_right_comm]
    exact Int.ofNat_le.mpr (Nat.mul_le_mul_right _ above)
  · rw [natAbs_quotient_error]
    apply Nat.lt_of_mul_lt_mul_left (a := Nat.pow 2 52)
    calc Nat.pow 2 52 * (2 * (((milliseconds * 1000000 : Nat) - count : Int).natAbs * quantaPerOne))
        = Nat.pow 2 53 * ((milliseconds * 1000000 : Nat) - count : Int).natAbs * quantaPerOne := by
          rw [← Nat.mul_assoc, ← Nat.mul_assoc]
      _ < Nat.pow 2 low * 1000000 * quantaPerOne :=
          Nat.mul_lt_mul_of_pos_right near quantaPerOne_pos
      _ = Nat.pow 2 52 * (Nat.pow 2 shift * 1000000) := by
          rw [← Nat.mul_assoc, spacing, Nat.mul_right_comm]

/-- An error of more than half a place is not. -/
theorem quotient_ne_of_far {count : Nat} (below : count < 2 * Nat.pow 2 low * 1000000)
    (far : Nat.pow 2 low * 1000000 <
      Nat.pow 2 53 * ((milliseconds * 1000000 : Nat) - count : Int).natAbs) :
    rounded (count * quantaPerOne : Nat) 1000000 ≠ (milliseconds * quantaPerOne : Nat) := by
  intro exact
  have inside : ((count * quantaPerOne : Nat) : Int).natAbs <
      2 * (Nat.pow 2 low * quantaPerOne) * 1000000 := by
    rw [Int.natAbs_natCast, ← Nat.mul_assoc, Nat.mul_right_comm]
    exact Nat.mul_lt_mul_of_pos_right below quantaPerOne_pos
  have positive : 0 < 1000000 := by decide
  have error := rounded_error_below low positive inside
  rw [exact, natAbs_quotient_error, ← Nat.mul_assoc] at error
  have scaled : _ ≤ Nat.pow 2 low * 1000000 * quantaPerOne :=
    Nat.le_trans error (Nat.le_of_eq (Nat.mul_right_comm _ _ _))
  exact Nat.not_lt.mpr (Nat.le_of_mul_le_mul_right scaled quantaPerOne_pos) far

/-! ## Half way or not -/

/-- The error of the count in units of 64 nanoseconds is half the distance of numbers exactly when
the milliseconds are an odd multiple of it, because 15625 is odd. -/
theorem half_error_iff {steps : Nat} (listed : low ∈ [39, 40, 41, 42, 43])
    (error : 2 * ((Nat.pow 2 (low - 38) * steps : Nat) - (milliseconds * 15625 : Nat) :
      Int).natAbs ≤ Nat.pow 2 (low - 38)) :
    ((Nat.pow 2 (low - 38) * steps : Nat) - (milliseconds * 15625 : Nat) : Int).natAbs =
      Nat.pow 2 (low - 39) ↔
      milliseconds % Nat.pow 2 (low - 38) = Nat.pow 2 (low - 39) := by
  simp only [List.mem_cons, List.not_mem_nil, or_false] at listed
  rcases listed with rfl | rfl | rfl | rfl | rfl
  all_goals
    simp only [Nat.pow_eq] at *
    omega

/-- The powers of two that belong to a stretch. -/
structure Stretch (low : Nat) : Prop where
  coarse : 52 ≤ low + 20
  grid : Nat.pow 2 (low + 20 - 52) = 64 * Nat.pow 2 (low - 38)
  half : Nat.pow 2 (low - 38) = 2 * Nat.pow 2 (low - 39)
  few : Nat.pow 2 (low - 39) ≤ 16
  start : Nat.pow 2 (low + 20) = 1048576 * Nat.pow 2 low
  next : Nat.pow 2 (low + 1) = 2 * Nat.pow 2 low
  near : Nat.pow 2 53 * (64 * (Nat.pow 2 (low - 39) - 1)) < Nat.pow 2 low * 1000000
  far : Nat.pow 2 low * 1000000 < Nat.pow 2 53 * (64 * Nat.pow 2 (low - 39))
  nearAbove : Nat.pow 2 53 * (64 * Nat.pow 2 (low - 39)) < Nat.pow 2 (low + 1) * 1000000

theorem stretch_of_mem (listed : low ∈ [39, 40, 41, 42, 43]) : Stretch low := by
  simp only [List.mem_cons, List.not_mem_nil, or_false] at listed
  rcases listed with rfl | rfl | rfl | rfl | rfl
  all_goals constructor <;> decide

/-- A count that is rounded to so many units of 64 nanoseconds. -/
structure RoundsToUnits (milliseconds units : Nat) : Prop where
  position : wholePosition (milliseconds * 1000000) = (64 * units * quantaPerOne : Nat)
  error : ((milliseconds * 1000000 : Nat) - (64 * units : Nat) : Int).natAbs =
    64 * ((units : Int) - (milliseconds * 15625 : Nat)).natAbs

theorem Stretch.exists_units (stretch : Stretch low)
    (started : Nat.pow 2 (low + 20) ≤ milliseconds * 1000000)
    (ended : milliseconds * 1000000 < 2 * Nat.pow 2 (low + 20)) :
    ∃ steps : Nat, RoundsToUnits milliseconds (Nat.pow 2 (low - 38) * steps) ∧
      2 * ((Nat.pow 2 (low - 38) * steps : Nat) - (milliseconds * 15625 : Nat) : Int).natAbs ≤
        Nat.pow 2 (low - 38) := by
  rcases exists_wholePosition_eq stretch.coarse started ended with ⟨steps, position, error⟩
  have grid : Nat.pow 2 (low + 20 - 52) * steps = 64 * (Nat.pow 2 (low - 38) * steps) := by
    rw [stretch.grid, Nat.mul_assoc]
  rw [grid] at position error
  rw [stretch.grid] at error
  exact ⟨steps, ⟨position, by omega⟩, by omega⟩

/-- Rounding does not fall below the beginning of a place. -/
theorem RoundsToUnits.le_of_le {exponent units : Nat} (rounds : RoundsToUnits milliseconds units)
    (reached : Nat.pow 2 exponent ≤ milliseconds) :
    Nat.pow 2 exponent * 1000000 ≤ 64 * units := by
  have above := le_wholePosition (Nat.mul_le_mul_right 1000000 reached)
  rw [rounds.position] at above
  exact Nat.le_of_mul_le_mul_right (Int.ofNat_le.mp above) quantaPerOne_pos

/-- In one of the five stretches the quotient is the milliseconds, unless their count lies half
way. -/
theorem countedPosition_eq_iff_of_stretch (listed : low ∈ [39, 40, 41, 42, 43])
    (started : Nat.pow 2 (low + 20) ≤ milliseconds * 1000000)
    (ended : milliseconds * 1000000 < 2 * Nat.pow 2 (low + 20))
    (small : milliseconds ≤ Nat.pow 2 53) :
    countedPosition (milliseconds * 1000000) = (milliseconds * quantaPerOne : Nat) ↔
      ¬IsHalfway low milliseconds := by
  have stretch := stretch_of_mem listed
  rcases stretch.exists_units started ended with ⟨steps, rounds, bounded⟩
  have halfway := half_error_iff listed bounded
  have half := stretch.half
  rw [countedPosition, rounds.position]
  constructor
  · intro exact isHalfway
    have below : 64 * (Nat.pow 2 (low - 38) * steps) < 2 * Nat.pow 2 low * 1000000 := by
      have few := stretch.few
      have ended := isHalfway.ended
      rw [stretch.next] at ended
      omega
    apply quotient_ne_of_far below _ exact
    rw [rounds.error, halfway.mpr isHalfway.between]
    exact stretch.far
  · intro notHalfway
    by_cases upper : Nat.pow 2 (low + 1) ≤ milliseconds
    · apply quotient_eq_of_near small upper (rounds.le_of_le upper)
      rw [rounds.error]
      apply Nat.lt_of_le_of_lt _ stretch.nearAbove
      exact Nat.mul_le_mul_left _ (Nat.mul_le_mul_left _ (by omega))
    · have lower : Nat.pow 2 low ≤ milliseconds := by
        have start := stretch.start
        omega
      apply quotient_eq_of_near small lower (rounds.le_of_le lower)
      rw [rounds.error]
      apply Nat.lt_of_le_of_lt _ stretch.near
      have unlike :=
        mt halfway.mp fun between => notHalfway ⟨started, Nat.lt_of_not_le upper, between⟩
      exact Nat.mul_le_mul_left _ (Nat.mul_le_mul_left _ (by omega))

/-- Stretches do not overlap. -/
theorem stretch_le {other count : Nat} (started : Nat.pow 2 (other + 20) ≤ count)
    (ended : count < 2 * Nat.pow 2 (low + 20)) : other ≤ low := by
  have powers := Nat.lt_of_le_of_lt started ended
  rw [Nat.pow_eq, Nat.pow_eq, ← Nat.pow_succ', Nat.pow_lt_pow_iff_right (by decide)] at powers
  omega

theorem IsHalfway.count_lt (isHalfway : IsHalfway low milliseconds) :
    milliseconds * 1000000 < 2 * Nat.pow 2 (low + 20) := by
  have ended := isHalfway.ended
  simp only [Nat.pow_eq, Nat.pow_succ] at *
  omega

/-- All of this is between `2 ^ 59` nanoseconds and the end of a word. -/
theorem Halfway.between (halfway : Halfway milliseconds) :
    Nat.pow 2 59 ≤ milliseconds * 1000000 ∧ milliseconds * 1000000 < Nat.pow 2 64 := by
  rcases halfway with ⟨low, listed, isHalfway⟩
  have bounds : 59 ≤ low + 20 ∧ low + 20 ≤ 63 := by
    simp only [List.mem_cons, List.not_mem_nil, or_false] at listed
    omega
  constructor
  · exact Nat.le_trans (Nat.pow_le_pow_right (by decide) bounds.1) isHalfway.started
  · have short : Nat.pow 2 (low + 20) ≤ Nat.pow 2 63 := Nat.pow_le_pow_right (by decide) bounds.2
    exact Nat.lt_of_lt_of_le isHalfway.count_lt (Nat.mul_le_mul_left 2 short)

/-- Whole milliseconds that fit a word as nanoseconds are the quotient, unless their count lies half
way. -/
theorem countedPosition_eq_iff (fits : milliseconds * 1000000 < Nat.pow 2 64) :
    countedPosition (milliseconds * 1000000) = (milliseconds * quantaPerOne : Nat) ↔
      ¬Halfway milliseconds := by
  have small : milliseconds ≤ Nat.pow 2 53 := by
    change milliseconds ≤ 9007199254740992
    change milliseconds * 1000000 < 18446744073709551616 at fits
    omega
  by_cases exact : milliseconds * 1000000 < Nat.pow 2 59
  · have kept : Kept (milliseconds * 1000000 * quantaPerOne) := by
      rw [Nat.mul_right_comm]
      apply kept_milliseconds
      change milliseconds * 15625 ≤ 9007199254740992
      change milliseconds * 1000000 < 576460752303423488 at exact
      omega
    exact iff_of_true (countedPosition_of_kept small kept) fun halfway =>
      Nat.not_lt.mpr halfway.between.1 exact
  · rcases exists_stretch (Nat.le_of_not_lt exact) fits with ⟨low, listed, started, ended⟩
    rw [countedPosition_eq_iff_of_stretch listed started ended small]
    apply not_congr
    constructor
    · exact fun isHalfway => ⟨low, listed, isHalfway⟩
    · rintro ⟨other, otherListed, isHalfway⟩
      have same : other = low :=
        Nat.le_antisymm (stretch_le isHalfway.started ended)
          (stretch_le started (isHalfway.count_lt))
      exact same ▸ isHalfway

/-- In any case no other whole number is as near. -/
theorem nearestWhole_countedPosition (fits : milliseconds * 1000000 < Nat.pow 2 64) :
    nearestWhole (countedPosition (milliseconds * 1000000)) = milliseconds := by
  have close := countedPosition_close (milliseconds * 1000000)
  rw [natCast_million_mul] at close
  have quotient :
      Close 17 (countedPosition (milliseconds * 1000000)) (milliseconds * quantaPerOne) := by
    have divided := Close.of_mul (by decide) close
    rwa [Int.natCast_mul] at divided
  apply nearestWhole_of_close quotient
  rw [Int.natAbs_natCast]
  simp only [Nat.pow_eq] at *
  omega

end DurationText
end Chronometry
