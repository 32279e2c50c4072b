import Chronometry.Binary64.Decimal
import Chronometry.Text.Blank

/-!
# Units of measure

The closed catalogue of units that a quantity can be counted in.  Every unit has a dimension and a
size relative to the base unit of its dimension: the nanosecond, the millimetre and the milligram.
The sizes of units of time are whole numbers of nanoseconds; a year is 365.25 days, and a month is a
twelfth of it.
-/

namespace Chronometry

/-- What a unit measures. -/
inductive Dimension where
  | time | length | mass
deriving DecidableEq, Repr

def Dimension.name : Dimension -> String
  | .time => "time"
  | .length => "length"
  | .mass => "mass"

/-- A unit of the catalogue. -/
inductive Measure where
  | nanosecond | microsecond | millisecond | second | minute | hour | day | week | month | year
  | decade | century
  | millimetre | centimetre | metre | kilometre | inch | foot | mile
  | milligram | gram | kilogram | pound
deriving DecidableEq, Repr

namespace Measure

/-- The catalogue, in the order in which names are looked up. -/
def all : List Measure :=
  [.nanosecond, .microsecond, .millisecond, .second, .minute, .hour, .day, .week, .month, .year,
    .decade, .century,
    .millimetre, .centimetre, .metre, .kilometre, .inch, .foot, .mile,
    .milligram, .gram, .kilogram, .pound]

theorem mem_all (unit : Measure) : unit ∈ all := by
  cases unit <;> decide

/-- The symbol of a unit. -/
def name : Measure -> String
  | .nanosecond => "ns"
  | .microsecond => "us"
  | .millisecond => "ms"
  | .second => "s"
  | .minute => "min"
  | .hour => "h"
  | .day => "day"
  | .week => "week"
  | .month => "month"
  | .year => "year"
  | .decade => "decade"
  | .century => "century"
  | .millimetre => "mm"
  | .centimetre => "cm"
  | .metre => "m"
  | .kilometre => "km"
  | .inch => "in"
  | .foot => "ft"
  | .mile => "mi"
  | .milligram => "mg"
  | .gram => "g"
  | .kilogram => "kg"
  | .pound => "lb"

/-- The other accepted spellings of a unit.  The microsecond is written with the micro sign or with
the Greek letter. -/
def aliases : Measure -> List String
  | .nanosecond => ["nanosecond", "nanoseconds"]
  | .microsecond => ["\u00b5s", "\u03bcs", "microsecond", "microseconds"]
  | .millisecond => ["millisecond", "milliseconds"]
  | .second => ["sec", "secs", "second", "seconds"]
  | .minute => ["mins", "minute", "minutes"]
  | .hour => ["hr", "hrs", "hour", "hours"]
  | .day => ["days"]
  | .week => ["weeks"]
  | .month => ["months"]
  | .year => ["years"]
  | .decade => ["decades"]
  | .century => ["centuries"]
  | .millimetre => ["millimeter", "millimeters", "millimetre", "millimetres"]
  | .centimetre => ["centimeter", "centimeters", "centimetre", "centimetres"]
  | .metre => ["meter", "meters", "metre", "metres"]
  | .kilometre => ["kilometer", "kilometers", "kilometre", "kilometres"]
  | .inch => ["inch", "inches"]
  | .foot => ["foot", "feet"]
  | .mile => ["mile", "miles"]
  | .milligram => ["milligram", "milligrams"]
  | .gram => ["gram", "grams"]
  | .kilogram => ["kilogram", "kilograms"]
  | .pound => ["lbs", "pound", "pounds"]

def dimension : Measure -> Dimension
  | .nanosecond | .microsecond | .millisecond | .second | .minute | .hour | .day | .week | .month
  | .year | .decade
  | .century => .time
  | .millimetre | .centimetre | .metre | .kilometre | .inch | .foot | .mile => .length
  | .milligram | .gram | .kilogram | .pound => .mass

/-- The question whether a unit is a unit of time. -/
def isTime (unit : Measure) : Bool :=
  unit.dimension == .time

/-- The exact number of nanoseconds in a unit of time. -/
def nanoseconds? : Measure -> Option Nat
  | .nanosecond => some 1
  | .microsecond => some 1000
  | .millisecond => some 1000000
  | .second => some 1000000000
  | .minute => some 60000000000
  | .hour => some 3600000000000
  | .day => some 86400000000000
  | .week => some 604800000000000
  | .month => some 2629800000000000
  | .year => some 31557600000000000
  | .decade => some 315576000000000000
  | .century => some 3155760000000000000
  | _ => none

/-- The size of a unit in hundredths of the base unit of its dimension. -/
def hundredths : Measure -> Nat
  | .millimetre => 100
  | .centimetre => 1000
  | .metre => 100000
  | .kilometre => 100000000
  | .inch => 2540
  | .foot => 30480
  | .mile => 160934400
  | .milligram => 100
  | .gram => 100000
  | .kilogram => 100000000
  | .pound => 45359237
  | unit => unit.nanoseconds?.getD 0 * 100

/-- The size of a unit in base units of its dimension, as the nearest binary64 number. -/
def factor (unit : Measure) : Binary64 :=
  Binary64.ofDecimal false unit.hundredths (-2)

/-- The unit with a name or an alias; blanks around the name do not count. -/
def find? (name : String) : Option Measure :=
  let trimmed := String.ofList (Text.trim name.toList)
  all.find? fun unit => unit.name == trimmed || unit.aliases.contains trimmed

theorem isTime_iff (unit : Measure) : unit.isTime = true ↔ ∃ n, unit.nanoseconds? = some n := by
  cases unit <;> simp [isTime, dimension, nanoseconds?]

theorem nanoseconds_pos {unit : Measure} {n : Nat} (size : unit.nanoseconds? = some n) : 0 < n := by
  cases unit <;> simp [nanoseconds?] at size <;> omega

end Measure
end Chronometry
