import Chronometry.Proofs.Duration.Nanoseconds
import Chronometry.Proofs.Quantity.Position
import Chronometry.Proofs.Registry.Standard

/-!
# Totals

The total of a duration in milliseconds is its length, rounded to a number, divided by a million and
rounded again.  Every duration without calendar fields has one, since no such duration is too long
to be a number.  The total loses little of the length, and it loses as much of a length as of the
opposite one.  It is what a duration is converted from, to any other unit of time.
-/

namespace Chronometry
namespace Duration

open Binary64 Quantity

variable {d : Duration} {unit : Measure} {size : Nat}

/-- The position of the total of a length of nanoseconds. -/
def totalPosition (length : Int) : Int :=
  rounded (rounded (length * quantaPerOne) 1) 1000000

theorem totalPosition_neg (length : Int) : totalPosition (-length) = -totalPosition length := by
  rw [totalPosition, Int.neg_mul, rounded_neg _ Nat.one_pos, rounded_neg _ (by decide),
    totalPosition]

theorem totalPosition_close (length : Int) :
    Close 17 (totalPosition length * 1000000) (length * quantaPerOne) :=
  (rounded_close _).quotient (by decide) (by decide) (by decide)

/-- A total of whole milliseconds is exact where the length is. -/
theorem totalPosition_of_exact {milliseconds : Int} (exact : Exact (milliseconds * 1000000))
    (small : milliseconds.natAbs ≤ Nat.pow 2 53) :
    totalPosition (milliseconds * 1000000) = milliseconds * quantaPerOne := by
  rw [totalPosition, exact.rounded_eq, Int.mul_right_comm]
  exact rounded_mul (exact_of_le small) (by decide)

/-- The limits of the fields bound the length. -/
theorem natAbs_length_le (d : Duration) : d.length.natAbs ≤ Nat.pow 2 72 := by
  have between (grain : Grain) : -(grain.limit : Int) ≤ d.fields.get grain ∧
      d.fields.get grain ≤ grain.limit := by
    have bounded := d.bounded grain
    omega
  have days := between .day
  have hours := between .hour
  have minutes := between .minute
  have seconds := between .second
  have milliseconds := between .millisecond
  have microseconds := between .microsecond
  have nanoseconds := between .nanosecond
  simp only [Fields.get, Grain.limit]
    at days hours minutes seconds milliseconds microseconds nanoseconds
  change (Fields.length d.fields).natAbs ≤ 4722366482869645213696
  simp only [Fields.length]
  omega

theorem totalMilliseconds_standsAt (plain : ¬d.HasCalendarFields) :
    ∃ total, d.totalMilliseconds = .ok total ∧ total.StandsAt (totalPosition d.length) := by
  have inside : 2 * (Nat.pow 2 72 * quantaPerOne) < quantaLimit := by decide +kernel
  have length : (d.length * quantaPerOne).natAbs ≤ Nat.pow 2 72 * quantaPerOne := by
    rw [Int.natAbs_mul, Int.natAbs_natCast]
    exact Nat.mul_le_mul_right _ d.natAbs_length_le
  have wholeSize := (rounded_close (d.length * quantaPerOne)).natAbs_le (by decide)
  have totalSize := (totalPosition_close d.length).natAbs_le (by decide)
  have wholeWithin : (rounded (d.length * quantaPerOne) 1).natAbs < quantaLimit := by omega
  have totalWithin : (totalPosition d.length).natAbs < quantaLimit := by omega
  have quotient := div_standsAt (ofInt_standsAt wholeWithin) million_standsAt (by decide +kernel)
    (by rwa [rounded_div_scale])
  rw [rounded_div_scale] at quotient
  refine ⟨_, ?_, quotient⟩
  rw [totalMilliseconds, if_neg (mt d.isCalendar_iff.mp plain)]

/-! ## In a unit of time -/

/-- A duration is converted to a unit of time as its total is. -/
theorem convert_duration_standsAt (plain : ¬d.HasCalendarFields)
    (sized : unit.nanoseconds? = some size) :
    ∃ q, Registry.standard.convert (.duration d) unit = .ok (.quantity q) ∧ q.unit = unit ∧
      q.exactNanoseconds = none ∧
      q.value.StandsAt (positionIn (totalPosition d.length) 1000000 size) := by
  rcases totalMilliseconds_standsAt plain with ⟨total, answered, standing⟩
  have moderate : (totalPosition d.length * (1000000 : Nat)).natAbs ≤
      Nat.pow 2 200 * quantaPerOne := by
    have length : (d.length * quantaPerOne).natAbs ≤ Nat.pow 2 72 * quantaPerOne := by
      rw [Int.natAbs_mul, Int.natAbs_natCast]
      exact Nat.mul_le_mul_right _ d.natAbs_length_le
    have size := (totalPosition_close d.length).natAbs_le (by decide)
    change (totalPosition d.length * 1000000).natAbs ≤ _
    simp only [Nat.pow_eq] at *
    omega
  have found : ∃ magnitude, (Quantity.plain total .millisecond).magnitudeIn unit = .ok magnitude ∧
      magnitude.StandsAt (positionIn (totalPosition d.length) 1000000 size) :=
    magnitudeIn_standsAt standing rfl sized moderate
  rcases found with ⟨magnitude, converted, magnitudeStanding⟩
  refine ⟨.plain magnitude unit, ?_, rfl, rfl, magnitudeStanding⟩
  rw [Registry.convert_duration, Arithmetic.convertDuration, answered]
  change Value.quantity <$> (Quantity.plain · unit) <$>
    (Quantity.plain total .millisecond).magnitudeIn unit = _
  rw [converted]
  rfl

end Duration
end Chronometry
