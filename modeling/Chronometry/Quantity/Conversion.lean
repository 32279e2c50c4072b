import Chronometry.Error

/-!
# Conversion of quantities

Magnitudes are converted through the sizes of the two units.  An exact count of nanoseconds is
carried over unchanged to every unit of time, and the magnitude is computed from it again.
-/

namespace Chronometry

namespace Quantity

/-- A magnitude with the name of its unit. -/
def ofName (value : Binary64) (name : String) : Except Error Quantity := do
  return plain value (← Measure.ofName name)

/-- The magnitude of a quantity in another unit of its dimension. -/
def magnitudeIn (q : Quantity) (target : Measure) : Except Error Binary64 :=
  if q.unit.dimension ≠ target.dimension then .error (.coercion (.dimensionsDiffer q.unit target))
  else if q.unit = target then .ok q.value
  else .ok (q.value * q.unit.factor / target.factor)

/-- The binary64 magnitude of a count of nanoseconds in a unit of the given size: the whole units,
and the remainder as a fraction of one. -/
def magnitudeOfNanoseconds (count : Int) (size : Nat) : Binary64 :=
  Binary64.ofInt (count.tdiv size) + Binary64.ofInt (count.tmod size) / Binary64.ofInt size

/-- A count of nanoseconds as a quantity of a unit of time.  The count is kept. -/
def ofNanoseconds (count : Int) (target : Measure) : Except Error Quantity :=
  match target.nanoseconds? with
  | some size => .ok ⟨magnitudeOfNanoseconds count size, target, some count⟩
  | none => .error (.coercion (.notTime target))

/-- A quantity in another unit of its dimension. -/
def convert (q : Quantity) (target : Measure) : Except Error Quantity :=
  match q.exactNanoseconds with
  | some count =>
      if target.isTime then ofNanoseconds count target
        else (plain · target) <$> q.magnitudeIn target
  | none => (plain · target) <$> q.magnitudeIn target

/-- The magnitude of a quantity without an exact count in nanoseconds, rounded toward zero.  Whole
magnitudes are multiplied exactly; others are multiplied in binary64 and lose what is below a
nanosecond. -/
def nanosecondsOfMagnitude (value : Binary64) (size : Nat) : Option Int :=
  match value.whole? with
  | some whole => some (whole * size)
  | none => (value * Binary64.ofInt size).truncated?

/-- The nanoseconds of a quantity of time: its exact count, or its magnitude rounded toward zero.  A
count must fit a signed word of 128 bits. -/
def toNanoseconds (q : Quantity) : Except Error Int :=
  match q.unit.nanoseconds? with
  | none => .error (.coercion (.notTime q.unit))
  | some size =>
    match q.exactNanoseconds with
    | some count => .ok count
    | none =>
      if !q.value.isFinite then .error (.coercion (.magnitudeNotFinite q.value))
      else match nanosecondsOfMagnitude q.value size with
        | some count =>
            if count.natAbs < Nat.pow 2 127 then .ok count else .error (.coercion .countOverflow)
        | none => .error (.coercion .countOverflow)

end Quantity
end Chronometry
