import Chronometry.Error

/-!
# Instants and counts

Instants are made from counts of nanoseconds and of milliseconds since the epoch.
-/

namespace Chronometry
namespace Instant

/-- A count of nanoseconds as an instant. -/
def ofNanoseconds (count : Int) : Except Error Instant :=
  Error.withinLimits (.instant count) (ofNanoseconds? count)

theorem ofNanoseconds_eq_ok_iff {count : Int} {i : Instant} :
    ofNanoseconds count = .ok i ↔ i.nanoseconds = count := by
  rw [ofNanoseconds, Error.withinLimits_eq_ok_iff, ofNanoseconds?_eq_some_iff]

/-- A count of milliseconds, which is widened exactly, as an instant. -/
def ofMilliseconds (count : Int) : Except Error Instant :=
  ofNanoseconds (count * 1000000)

end Instant
end Chronometry
