import Chronometry.Error

/-!
# Durations and counts

Durations are made from counts of milliseconds and nanoseconds and read back as a total of
milliseconds.
-/

namespace Chronometry
namespace Duration

/-- A count of nanoseconds as a duration of milliseconds, microseconds and nanoseconds.  The
milliseconds must fit a signed word of 64 bits before they are held against the limit of their
grain. -/
def ofNanoseconds (count : Int) : Except Error Duration :=
  let milliseconds := count.tdiv 1000000
  if -0x8000000000000000 ≤ milliseconds ∧ milliseconds < 0x8000000000000000 then
    Error.withinLimits (.milliseconds milliseconds) (balanced? .millisecond count)
  else .error (.outOfRange (.nanoseconds count))

/-- A count of milliseconds, whole or not, as a duration.  The product with a million is rounded to
binary64 and then to the nearest nanosecond, a half away from zero. -/
def ofMilliseconds (milliseconds : Binary64) : Except Error Duration :=
  if !milliseconds.isFinite then .error (.coercion (.durationNotFinite milliseconds))
  else match (milliseconds * 1000000).nearest? with
    | some count =>
      if count.natAbs < Nat.pow 2 127 then ofNanoseconds count
        else .error (.outOfRange (.milliseconds milliseconds))
    | none => .error (.outOfRange (.milliseconds milliseconds))

/-- The length of a duration in milliseconds.  The exact count of nanoseconds is rounded to binary64
before it is divided.  Durations with calendar grains have none. -/
def totalMilliseconds (d : Duration) : Except Error Binary64 :=
  if d.isCalendar then .error (.outOfRange (.limits (.total d)))
  else .ok (Binary64.ofInt d.length / 1000000)

end Duration
end Chronometry
