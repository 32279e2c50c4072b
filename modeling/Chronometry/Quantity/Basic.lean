import Chronometry.Measure

/-!
# Quantities

A quantity is a magnitude with its unit.  A quantity of time that was projected from a count of
nanoseconds keeps that count beside the magnitude, which is only as precise as binary64 allows.
-/

namespace Chronometry

/-- A magnitude with its unit, and the exact count of nanoseconds where one is known. -/
structure Quantity where
  value : Binary64
  unit : Measure
  exactNanoseconds : Option Int
deriving DecidableEq

namespace Quantity

/-- A quantity without an exact count. -/
def plain (value : Binary64) (unit : Measure) : Quantity where
  value := value
  unit := unit
  exactNanoseconds := none

/-- The exact whole magnitude, when the exact count is a multiple of the unit. -/
def exactIntegral? (q : Quantity) : Option Int :=
  match q.unit.nanoseconds?, q.exactNanoseconds with
  | some size, some count => if count % size = 0 then some (count / size) else none
  | _, _ => none

/-- Quantities of one unit are equal when their exact counts are, or, where one has none, when their
magnitudes are. -/
def same (q r : Quantity) : Bool :=
  q.unit == r.unit &&
    match q.exactNanoseconds, r.exactNanoseconds with
    | some m, some n => m == n
    | _, _ => q.value.sameValue r.value

/-- A quantity as it is written: its exact whole magnitude if it has one, else its value, and the
unit. -/
def text (q : Quantity) : String :=
  match q.exactIntegral? with
  | some whole => toString whole ++ " " ++ q.unit.name
  | none => q.value.text ++ " " ++ q.unit.name

end Quantity
end Chronometry
