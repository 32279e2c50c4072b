import Chronometry.Duration.Relative
import Chronometry.Error
import Chronometry.Pattern.Render
import Chronometry.Settings

/-!
# Display of values

Values as a reader sees them.  Instants are written in the zone and by the pattern of the settings.
Durations are counted anew from the current local datetime, so that one duration may read
differently on different days, and are then written with short labels.
-/

namespace Chronometry
namespace Display

/-- The labels of a grain, for a count of one and for other counts. -/
def labels : Grain -> String × String
  | .year => ("yr", "yrs")
  | .month => ("mth", "mths")
  | .week => ("wk", "wks")
  | .day => ("day", "days")
  | .hour => ("hr", "hr")
  | .minute => ("min", "min")
  | .second => ("sec", "sec")
  | .millisecond => ("ms", "ms")
  | .microsecond => ("\u03bcs", "\u03bcs")
  | .nanosecond => ("ns", "ns")

/-- A count of a grain with its label. -/
def labelled (grain : Grain) (count : Nat) : String :=
  toString count ++ " " ++ if count = 1 then (labels grain).1 else (labels grain).2

/-- The fields of a duration that are not zero, with their labels. -/
def fieldTexts (d : Duration) : List String :=
  (Grain.all.filter fun grain => d.get grain ≠ 0).map fun grain =>
    labelled grain (d.get grain).natAbs

/-- A duration as it is displayed, with a leading minus for a negative one. -/
def duration (d : Duration) : String :=
  let parts := fieldTexts d
  if parts.isEmpty then "0 sec" else (if d.sign < 0 then "-" else "") ++ ", ".intercalate parts

/-- A duration counted anew by the settings from a current instant, as it is displayed. -/
def durationFrom (d : Duration) (settings : Settings) (now : Instant) : Except Error String :=
  let start := settings.zone.civilOf now
  Error.withinLimits (.recount d settings.largest start)
    ((d.roundedFrom? settings.largest start).map duration)

/-- An instant as it is displayed. -/
def instant (i : Instant) (settings : Settings) : Except Error String :=
  let zone := settings.zone
  Error.withinLimits (.rendering settings.pattern i (zone.readingAt i) zone.name?) do
    let pattern ← Pattern.ofText? settings.pattern.toList
    pattern.render? ⟨i, zone⟩

/-- The size below which whole numbers are displayed as whole numbers. -/
def wholeLimit : Nat := 1000000000000000

/-- A number as it is displayed.  A zero has no sign. -/
def number (x : Binary64) : String :=
  match x with
  | .nan => "NaN"
  | .infinity negative => if negative then "-Infinity" else "Infinity"
  | .finite .. =>
    match x.whole? with
    | some whole => if whole.natAbs < wholeLimit then toString whole else x.text
    | none => x.text

/-- A quantity as it is displayed: its exact whole magnitude if it has one, else its value, and the
unit. -/
def quantity (q : Quantity) : String :=
  match q.exactIntegral? with
  | some whole => toString whole ++ " " ++ q.unit.name
  | none => number q.value ++ " " ++ q.unit.name

/-- A value as it is displayed. -/
def value (value : Value) (settings : Settings) (now : Instant) : Except Error String :=
  match value with
  | .number x => .ok (number x)
  | .boolean b => .ok (toString b)
  | .quantity q => .ok (quantity q)
  | .instant i => instant i settings
  | .duration d => durationFrom d settings now

end Display
end Chronometry
