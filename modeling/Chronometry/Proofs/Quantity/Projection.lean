import Chronometry.Display
import Chronometry.Quantity.Conversion

/-!
# Projections of exact counts

A count of nanoseconds projects into every unit of time and into no other unit.  The projection
keeps the count beside a magnitude that is only the nearest binary64 can offer.  The statements here
say which of the two is consulted: everything about nanoseconds, whole magnitudes and other units of
time is answered from the count, so that projecting a projection is projecting the count, and no
magnitude is ever read back.
-/

namespace Chronometry
namespace Quantity

variable {count : Int} {unit target : Measure} {q : Quantity}

/-- A projection is determined by the count and the unit. -/
theorem ofNanoseconds_eq_ok_iff :
    ofNanoseconds count unit = .ok q ↔
      ∃ size, unit.nanoseconds? = some size ∧
        q = ⟨magnitudeOfNanoseconds count size, unit, some count⟩ := by
  unfold ofNanoseconds
  cases sized : unit.nanoseconds? with
  | none =>
      constructor
      · intro impossible
        contradiction
      · rintro ⟨size, impossible, _⟩
        contradiction
  | some size =>
      constructor
      · intro projected
        exact ⟨size, rfl, (Except.ok.inj projected).symm⟩
      · rintro ⟨other, same, rfl⟩
        rw [Option.some.inj same]

theorem exists_ofNanoseconds (count : Int) (time : unit.isTime = true) :
    ∃ q, ofNanoseconds count unit = .ok q := by
  rcases unit.isTime_iff.mp time with ⟨size, sized⟩
  exact ⟨_, ofNanoseconds_eq_ok_iff.mpr ⟨size, sized, rfl⟩⟩

theorem unit_of_projected (projected : ofNanoseconds count unit = .ok q) : q.unit = unit := by
  rcases ofNanoseconds_eq_ok_iff.mp projected with ⟨size, _, rfl⟩
  rfl

theorem exactNanoseconds_of_projected (projected : ofNanoseconds count unit = .ok q) :
    q.exactNanoseconds = some count := by
  rcases ofNanoseconds_eq_ok_iff.mp projected with ⟨size, _, rfl⟩
  rfl

theorem isTime_of_projected (projected : ofNanoseconds count unit = .ok q) :
    unit.isTime = true := by
  rcases ofNanoseconds_eq_ok_iff.mp projected with ⟨size, sized, _⟩
  exact unit.isTime_iff.mpr ⟨size, sized⟩

theorem toNanoseconds_of_projected (projected : ofNanoseconds count unit = .ok q) :
    q.toNanoseconds = .ok count := by
  rcases ofNanoseconds_eq_ok_iff.mp projected with ⟨size, sized, rfl⟩
  simp only [toNanoseconds, sized]

/-- Converting a projection to a unit of time is projecting its count there. -/
theorem convert_of_projected (projected : ofNanoseconds count unit = .ok q)
    (time : target.isTime = true) :
    q.convert target = ofNanoseconds count target := by
  unfold convert
  rw [exactNanoseconds_of_projected projected]
  exact if_pos time

theorem dimension_ne_of_isTime (time : unit.isTime = true) (notTime : target.isTime = false) :
    unit.dimension ≠ target.dimension := by
  intro same
  unfold Measure.isTime at time notTime
  rw [same, notTime] at time
  contradiction

/-- A projection stays among the units of time. -/
theorem convert_of_projected_of_not_time (projected : ofNanoseconds count unit = .ok q)
    (notTime : target.isTime = false) :
    q.convert target = .error (.coercion (.dimensionsDiffer unit target)) := by
  have differ := dimension_ne_of_isTime (isTime_of_projected projected) notTime
  have refused : q.magnitudeIn target = .error (.coercion (.dimensionsDiffer unit target)) := by
    rw [magnitudeIn, unit_of_projected projected, if_pos differ]
  unfold convert
  rw [exactNanoseconds_of_projected projected]
  simp only [notTime, Bool.false_eq_true, if_false, refused]
  rfl

/-! ## Whole magnitudes -/

/-- The magnitude of a projection is whole exactly when the unit divides the count, and then it is
the quotient. -/
theorem exactIntegral?_of_projected_iff (projected : ofNanoseconds count unit = .ok q)
    (whole : Int) :
    q.exactIntegral? = some whole ↔
      ∃ size, unit.nanoseconds? = some size ∧ count = whole * size := by
  rcases ofNanoseconds_eq_ok_iff.mp projected with ⟨size, sized, rfl⟩
  have positive : (size : Int) ≠ 0 := by
    have := Measure.nanoseconds_pos sized
    omega
  simp only [exactIntegral?, sized, Option.some.injEq, exists_eq_left']
  constructor
  · intro found
    split at found
    next divides =>
      rw [← Option.some.inj found, Int.ediv_mul_cancel (Int.dvd_of_emod_eq_zero divides)]
    next => contradiction
  · rintro rfl
    rw [if_pos (Int.mul_emod_left whole size), Int.mul_ediv_cancel whole positive]

/-- A whole magnitude is written as the whole number that it is, wherever quantities are written. -/
theorem text_of_exactIntegral? {whole : Int} (found : q.exactIntegral? = some whole) :
    q.text = toString whole ++ " " ++ q.unit.name ∧
      Display.quantity q = toString whole ++ " " ++ q.unit.name := by
  constructor
  · rw [text, found]
  · rw [Display.quantity, found]

end Quantity
end Chronometry
