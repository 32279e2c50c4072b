import Chronometry.Engine

/-!
# Engines that stand still

The everyday engine at a given instant, for statements about single texts and values.  Its zone is
the one of offset zero, and it knows no zones by name.
-/

namespace Chronometry
namespace Engine

/-- The everyday engine with its clock put to an instant. -/
def standingAt (now : Instant) : Engine :=
  everyday (fun _ => none) ⟨now⟩ .utc

/-- The engine at the epoch. -/
def atEpoch : Engine :=
  standingAt .epoch

/-- The engine at noon of 2024-03-10. -/
def atNoon : Engine :=
  standingAt ⟨1710072000000000000, by decide, by decide⟩

end Engine
end Chronometry
