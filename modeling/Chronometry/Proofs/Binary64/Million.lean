import Chronometry.Proofs.Binary64.Whole

/-!
# A million there and back

Whole milliseconds are counted in nanoseconds, divided by a million, and multiplied by a million
again.  The product with a million need not undo the quotient by a million: the quotient is rounded,
and a million times that error can be more than what the rounding of the product forgives.  For
counts of whole milliseconds in a word of 64 bits it does.  In the upper part of a grid, where the
error of the quotient is too large, the whole number of milliseconds lies so close to the exact
quotient that it is what the quotient is rounded to.  In the lower part the error is small enough,
except that below the start of the grid the numbers stand closer together; the five starts are
checked one by one.
-/

namespace Chronometry
namespace Binary64

/-- Where a grid starts, the product undoes the quotient. -/
theorem million_undone_at_start : ∀ exponent ∈ [59, 60, 61, 62, 63],
    rounded (rounded ((Nat.pow 2 exponent * quantaPerOne : Nat) : Int) 1000000 * 1000000) 1 =
      (Nat.pow 2 exponent * quantaPerOne : Nat) := by
  decide +kernel

/-- A million times the start of a grid keeps its bits. -/
theorem kept_million_mul (shift : Nat) : Kept (Nat.pow 2 (52 + shift) * 1000000) := by
  rw [Nat.mul_comm]
  exact dvd_shifted _ (by decide)

/-- In the upper part of a grid the quotient is the whole number of milliseconds. -/
theorem million_undone_above {shift : Nat} {whole position : Int} (kept : Kept whole.natAbs)
    (start : (Nat.pow 2 (52 + shift) : Nat) ≤ whole)
    (exact : rounded (whole * 1000000) 1 = position)
    (near : 2 * (whole * 1000000 - position).natAbs ≤ Nat.pow 2 shift * 524288) :
    rounded (rounded position 1000000 * 1000000) 1 = position := by
  have positive := Nat.two_pow_pos shift
  have above : ((Nat.pow 2 (52 + shift) : Nat) : Int) * 1000000 ≤ position := by
    rw [← exact]
    have kept := kept_million_mul shift
    rw [← Int.natAbs_natCast (_ * 1000000), Int.natCast_mul] at kept
    exact le_rounded kept Nat.one_pos (by omega)
  have quotient : rounded position 1000000 = whole := by
    apply rounded_eq_of_near shift kept (by decide) start above
    change 2 * (whole * 1000000 - position).natAbs < Nat.pow 2 shift * 1000000
    simp only [Nat.pow_eq] at *
    omega
  rw [quotient, exact]

/-- In the lower part the error of the quotient is forgiven, except perhaps at the start of the
grid. -/
theorem million_undone_below (below : Nat) {position : Int} (kept : Kept position.natAbs)
    (start : (Nat.pow 2 (52 + (below + 20)) : Nat) < position)
    (finish : position < (Nat.pow 2 (53 + below) : Nat) * (1000000 : Nat)) :
    rounded (rounded position 1000000 * 1000000) 1 = position := by
  have positive := Nat.two_pow_pos below
  have spacing : Nat.pow 2 (below + 20) = Nat.pow 2 below * 1048576 := Nat.pow_add 2 below 20
  generalize below + 20 = shift at *
  have error : 2 * (rounded position 1000000 * (1000000 : Nat) - position).natAbs ≤
      1000000 * Nat.pow 2 below :=
    rounded_half_error (by decide) (by omega)
  -- The next number after the start lies a whole step away from it.
  have onGrid : Nat.pow 2 shift ∣ position.natAbs := dvd_of_gridStart_le kept (by omega)
  have startOnGrid : Nat.pow 2 shift ∣ Nat.pow 2 (52 + shift) :=
    Nat.pow_dvd_pow 2 (Nat.le_add_left _ _)
  have afterStart : ((Nat.pow 2 (52 + shift) + Nat.pow 2 shift : Nat) : Int) ≤ position := by
    have step := Nat.le_of_dvd (show 0 < position.natAbs - Nat.pow 2 (52 + shift) by omega)
      (Nat.dvd_sub onGrid startOnGrid)
    omega
  change 2 * (rounded position 1000000 * 1000000 - position).natAbs ≤
    1000000 * Nat.pow 2 below at error
  apply rounded_eq_of_near shift kept Nat.one_pos (Int.le_of_lt start)
  · simp only [Nat.pow_eq] at *
    omega
  · simp only [Nat.pow_eq] at *
    omega

/-- The lower part of a grid with both of its ends.  It ends at a million times a number that keeps
its bits. -/
theorem million_undone_to_end (below : Nat) {position : Int} (kept : Kept position.natAbs)
    (start : (Nat.pow 2 (52 + (below + 20)) : Nat) ≤ position)
    (finish : position ≤ (Nat.pow 2 (53 + below) : Nat) * (1000000 : Nat))
    (atStart : rounded (rounded (Nat.pow 2 (52 + (below + 20)) : Nat) 1000000 * 1000000) 1 =
      (Nat.pow 2 (52 + (below + 20)) : Nat)) :
    rounded (rounded position 1000000 * 1000000) 1 = position := by
  rcases Int.lt_or_eq_of_le finish with before | last
  · rcases Int.lt_or_eq_of_le start with after | first
    · exact million_undone_below below kept after before
    · rw [← first]
      exact atStart
  · have endKept : Kept ((Nat.pow 2 (53 + below) : Nat) : Int).natAbs := kept_two_pow _
    have quotient := rounded_mul endKept (show 0 < 1000000 by decide)
    rw [last] at kept ⊢
    rw [quotient]
    exact rounded_of_kept kept

/-- A whole grid.  Where its lower part ends, the quotients double their spacing. -/
theorem million_undone_of_start {below quanta : Nat} (kept : Kept quanta)
    (started : Nat.pow 2 (52 + (below + 20)) ≤ quanta * 1000000)
    (ended : quanta * 1000000 < Nat.pow 2 (53 + (below + 20)))
    (atStart : rounded (rounded (Nat.pow 2 (52 + (below + 20)) : Nat) 1000000 * 1000000) 1 =
      (Nat.pow 2 (52 + (below + 20)) : Nat)) :
    rounded (rounded (rounded ((quanta : Int) * 1000000) 1) 1000000 * 1000000) 1 =
      rounded ((quanta : Int) * 1000000) 1 := by
  have doubling : 52 + (below + 1) = 53 + below := by omega
  generalize found : rounded ((quanta : Int) * 1000000) 1 = position
  by_cases upper : Nat.pow 2 (52 + (below + 1)) ≤ quanta
  · have error :
        2 * (rounded ((quanta : Int) * 1000000) 1 * (1 : Nat) - (quanta : Int) * 1000000).natAbs ≤
        1 * Nat.pow 2 (below + 20) := rounded_half_error (by decide) (by omega)
    have spacing : Nat.pow 2 (below + 20) = Nat.pow 2 (below + 1) * 524288 :=
      Nat.pow_add 2 (below + 1) 19
    rw [found] at error
    apply million_undone_above (show Kept (quanta : Int).natAbs from kept)
      (Int.ofNat_le.mpr upper) found
    omega
  · have keptEnd := kept_million_mul (below + 1)
    rw [doubling] at upper keptEnd
    rw [← Int.natAbs_natCast (_ * 1000000), Int.natCast_mul] at keptEnd
    apply million_undone_to_end below (found ▸ kept_rounded _ 1) _ _ atStart
    · rw [← found]
      exact le_rounded (by rw [Int.natAbs_natCast]; exact kept_two_pow _) Nat.one_pos (by omega)
    · rw [← found]
      exact rounded_le keptEnd Nat.one_pos (by omega)

/-- A count of whole milliseconds on one of the five grids on which it need not be exact. -/
theorem million_undone_on_grid {low whole : Nat} (listed : low + 20 ∈ [59, 60, 61, 62, 63])
    (started : Nat.pow 2 (low + 20) ≤ whole * 1000000)
    (ended : whole * 1000000 < 2 * Nat.pow 2 (low + 20)) (small : whole ≤ Nat.pow 2 53) :
    rounded (rounded (rounded ((whole * quantaPerOne : Nat) * 1000000) 1) 1000000 * 1000000) 1 =
      rounded ((whole * quantaPerOne : Nat) * 1000000) 1 := by
  rcases exists_grid low with ⟨below, lowStart, _, _⟩
  have start : Nat.pow 2 (52 + (below + 20)) = Nat.pow 2 (low + 20) * quantaPerOne := by
    calc Nat.pow 2 (52 + (below + 20)) = Nat.pow 2 (52 + below) * Nat.pow 2 20 :=
        Nat.pow_add 2 (52 + below) 20
      _ = Nat.pow 2 low * Nat.pow 2 20 * quantaPerOne := by rw [lowStart, Nat.mul_right_comm]
      _ = Nat.pow 2 (low + 20) * quantaPerOne :=
          congrArg (· * quantaPerOne) (Nat.pow_add 2 low 20).symm
  have finish : Nat.pow 2 (53 + (below + 20)) = 2 * Nat.pow 2 (52 + (below + 20)) := by
    rw [show 53 + (below + 20) = 52 + (below + 20) + 1 by omega]
    exact Nat.pow_succ'
  have atStart := million_undone_at_start (low + 20) listed
  have startedQuanta := Nat.mul_le_mul_right quantaPerOne started
  have endedQuanta := Nat.mul_lt_mul_of_pos_right ended quantaPerOne_pos
  rw [Nat.mul_right_comm, ← start] at startedQuanta
  rw [Nat.mul_right_comm, Nat.mul_assoc 2, ← start, ← finish] at endedQuanta
  rw [← start] at atStart
  exact million_undone_of_start (kept_of_le small) startedQuanta endedQuanta atStart

/-- A million is a multiple of 64, so that up to six bits more of whole milliseconds are zero. -/
theorem kept_milliseconds {whole : Nat} (reduced : whole * 15625 ≤ Nat.pow 2 53) :
    Kept (whole * quantaPerOne * 1000000) := by
  rcases exists_grid 6 with ⟨shift, start, _, _⟩
  have factors : whole * quantaPerOne * 1000000 = whole * 15625 * (Nat.pow 2 6 * quantaPerOne) := by
    change whole * quantaPerOne * (15625 * Nat.pow 2 6) = _
    simp only [Nat.mul_assoc, Nat.mul_left_comm quantaPerOne, Nat.mul_comm quantaPerOne]
  rw [factors, ← start]
  exact dvd_shifted _ reduced

/-- The five stretches of counts in a word that need not be exact. -/
theorem exists_stretch {count : Nat} (inexact : Nat.pow 2 59 ≤ count)
    (fits : count < Nat.pow 2 64) :
    ∃ low ∈ [39, 40, 41, 42, 43],
      Nat.pow 2 (low + 20) ≤ count ∧ count < 2 * Nat.pow 2 (low + 20) := by
  simp only [List.mem_cons, List.not_mem_nil, or_false, exists_eq_or_imp, exists_eq_left,
    Nat.pow_eq] at *
  omega

/-- A count of whole milliseconds in a word of 64 bits survives the quotient by a million. -/
theorem million_undone {whole : Nat} (fits : whole * 1000000 < Nat.pow 2 64) :
    rounded (rounded (rounded ((whole * quantaPerOne : Nat) * 1000000) 1) 1000000 * 1000000) 1 =
      rounded ((whole * quantaPerOne : Nat) * 1000000) 1 := by
  have small : whole ≤ Nat.pow 2 53 := by
    change whole ≤ 9007199254740992
    change whole * 1000000 < 18446744073709551616 at fits
    omega
  by_cases exact : whole * 1000000 < Nat.pow 2 59
  · have keptWhole : Kept (((whole * quantaPerOne : Nat) : Int)).natAbs := kept_of_le small
    have keptCount : Kept ((whole * quantaPerOne : Nat) * (1000000 : Int)).natAbs := by
      rw [Int.natAbs_mul, Int.natAbs_natCast]
      apply kept_milliseconds
      change whole * 15625 ≤ 9007199254740992
      change whole * 1000000 < 576460752303423488 at exact
      omega
    rw [rounded_of_kept keptCount]
    have quotient : rounded ((whole * quantaPerOne : Nat) * (1000000 : Nat)) 1000000 = _ :=
      rounded_mul keptWhole (by decide)
    change rounded ((whole * quantaPerOne : Nat) * 1000000) 1000000 = _ at quotient
    rw [quotient, rounded_of_kept keptCount]
  · have grids : ∀ low ∈ [39, 40, 41, 42, 43], low + 20 ∈ [59, 60, 61, 62, 63] := by decide
    rcases exists_stretch (Nat.le_of_not_lt exact) fits with ⟨low, listed, started, ended⟩
    exact million_undone_on_grid (grids low listed) started ended small

end Binary64
end Chronometry
