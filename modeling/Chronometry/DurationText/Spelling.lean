import Chronometry.Binary64.Basic
import Chronometry.Duration.Basic

/-!
# Spelled grains

The words by which duration text names its grains.  Case matters: `m` is a minute and `M` a month.
In text every grain has a nominal length; a year is 365.25 days and a month 30.44 days.
-/

namespace Chronometry
namespace DurationText

/-- The words that name a grain in duration text. -/
def spellings : Grain -> List String
  | .year => ["y", "yr", "yrs", "year", "years"]
  | .month => ["M", "month", "months"]
  | .week => ["w", "wk", "wks", "week", "weeks"]
  | .day => ["d", "day", "days"]
  | .hour => ["h", "hr", "hrs", "hour", "hours"]
  | .minute => ["m", "min", "mins", "minute", "minutes"]
  | .second => ["s", "sec", "secs", "second", "seconds"]
  | .millisecond => ["ms", "msec", "millis"]
  | .microsecond => ["us", "\u00b5s", "usec"]
  | .nanosecond => ["ns", "nsec", "nanos"]

/-- The grain that a word names. -/
def grainOf? (word : List Char) : Option Grain :=
  Grain.all.find? fun grain => (spellings grain).contains (String.ofList word)

/-- The characters of which the words consist: the letters of the alphabet, and the micro sign. -/
def isUnitLetter (c : Char) : Bool :=
  c.isAlpha || c == '\u00b5'

/-- The nominal length of a grain of a second or coarser, in seconds. -/
def nominalSeconds? : Grain -> Option Nat
  | .year => some 31557600
  | .month => some 2630016
  | .week => some 604800
  | .day => some 86400
  | .hour => some 3600
  | .minute => some 60
  | .second => some 1
  | .millisecond | .microsecond | .nanosecond => none

/-- The nominal length of a grain in nanoseconds. -/
def nominalNanoseconds : Grain -> Nat
  | .millisecond => 1000000
  | .microsecond => 1000
  | .nanosecond => 1
  | grain => (nominalSeconds? grain).getD 0 * 1000000000

/-- A count of nanoseconds in milliseconds. -/
def millisecondsOf (nanoseconds : Nat) : Binary64 :=
  Binary64.ofInt nanoseconds / 1000000

end DurationText
end Chronometry
