import Chronometry.Duration.Basic
import Chronometry.Zone.Basic

/-!
# Settings

What the display of values and the reading of relative dates depend on, apart from the current
moment.
-/

namespace Chronometry

/-- The zone of local time, the pattern in which instants are written, and the coarsest grain of
written durations. -/
structure Settings where
  zone : Zone
  pattern : String
  largest : Grain

namespace Settings

/-- Month, day and year with slashes, and the time on a clock of twelve hours. -/
def defaultPattern : String := "%-m/%-d/%Y, %-I:%M:%S %p"

/-- The settings for offset zero. -/
def utc : Settings where
  zone := .utc
  pattern := defaultPattern
  largest := .year

end Settings
end Chronometry
