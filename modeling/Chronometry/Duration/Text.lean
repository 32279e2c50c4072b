import Chronometry.Duration.Basic
import Chronometry.Text.Digits

/-!
# Written durations

The form with designators: `P`, the date fields that are not zero, then `T` and the time fields that
are not zero.  The fields from seconds downward are added up and written as one decimal number of
seconds.
-/

namespace Chronometry
namespace Duration

/-- A field with its designator, or nothing for a field of zero. -/
def designated (count : Int) (designator : String) : String :=
  if count = 0 then "" else toString count.natAbs ++ designator

/-- The fields from seconds downward as one count of nanoseconds. -/
def secondsLength (d : Duration) : Int :=
  d.get .second * 1000000000 + d.get .millisecond * 1000000 + d.get .microsecond * 1000 +
    d.get .nanosecond

/-- The fields from years to minutes with their designators, and the `T` before the first time
field. -/
def textParts (d : Duration) : String × String :=
  (designated (d.get .year) "Y" ++ designated (d.get .month) "M" ++ designated (d.get .week) "W"
    ++ designated (d.get .day) "D",
   designated (d.get .hour) "H" ++ designated (d.get .minute) "M")

/-- The part from seconds downward.  It is left out when it is zero, unless nothing else is
written. -/
def secondsText (d : Duration) (alone : Bool) : String :=
  let nanos := d.secondsLength.natAbs
  if nanos = 0 && !alone then ""
  else toString (nanos / 1000000000) ++ Text.pointedFraction 9 (nanos % 1000000000) ++ "S"

/-- A duration as it is written, with a leading minus for a negative one. -/
def text (d : Duration) : String :=
  let (dates, times) := d.textParts
  let seconds := d.secondsText (dates.isEmpty && times.isEmpty)
  let clock := times ++ seconds
  (if d.sign < 0 then "-" else "") ++ "P" ++ dates ++ (if clock.isEmpty then "" else "T" ++ clock)

end Duration
end Chronometry
