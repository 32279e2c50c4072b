import Chronometry.Instant.Basic
import Chronometry.Duration.Basic

/-!
# Instants and durations

A duration moves an instant by its exact length when it has no field of a day or coarser.  The
difference of two instants is a duration of seconds and finer grains.
-/

namespace Chronometry
namespace Instant

/-- The instant some nanoseconds later, or earlier for a negative count, if it is within the
limits. -/
def shift? (a : Instant) (nanoseconds : Int) : Option Instant :=
  ofNanoseconds? (a.nanoseconds + nanoseconds)

/-- The instant a duration after another one. -/
def add? (a : Instant) (d : Duration) : Option Instant :=
  if d.hasDays then none else a.shift? d.length

/-- The instant a duration before another one. -/
def sub? (a : Instant) (d : Duration) : Option Instant :=
  if d.hasDays then none else a.shift? (-d.length)

/-- The duration from an earlier instant to a later one; it is negative when they stand the other
way round. -/
def since? (later earlier : Instant) : Option Duration :=
  Duration.balanced? .second (later.nanoseconds - earlier.nanoseconds)

end Instant
end Chronometry
