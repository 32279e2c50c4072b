import Chronometry.Error
import Chronometry.Instant.Arithmetic

/-!
# The manual clock

A clock that moves only when it is told to.
-/

namespace Chronometry

/-- A clock that stands at an instant. -/
structure Clock where
  now : Instant
deriving DecidableEq

namespace Clock

/-- The clock put to an instant. -/
def set (_ : Clock) (instant : Instant) : Clock := ⟨instant⟩

/-- The clock moved by a duration, backward for a negative one. -/
def advance (clock : Clock) (step : Duration) : Except Error Clock :=
  Error.withinLimits (.later clock.now step) ((clock.now.add? step).map (⟨·⟩))

end Clock
end Chronometry
