import Chronometry.Instant.Basic
import Chronometry.Zone.Rule

/-!
# Zones

A zone of local time gives every instant a name and an offset, and reads every local datetime by an
offset.  Zones of one offset and zones of a daylight-saving rule are defined here.  The other ones,
with the whole history of their offsets, are what a database of zones answers to a name; nothing is
assumed of it.
-/

namespace Chronometry

/-- A zone of local time: its name in a database, if it has one, the name and offset in force at
every instant, and the offset by which a local datetime is read. -/
structure Zone where
  name? : Option String
  readingAt : Instant -> Zone.Reading
  offsetOfLocal : Civil.DateTime -> Int

namespace Zone

/-- A database of zones: the zone with a name, if there is one. -/
abbrev Database := String -> Option Zone

/-- The zone of one offset, in seconds east. -/
def fixed (seconds : Int) : Zone where
  name? := if seconds = 0 then some "UTC" else none
  readingAt _ := ⟨Offset.name seconds, seconds⟩
  offsetOfLocal _ := seconds

theorem fixed_offsetOfLocal (seconds : Int) (civil : Civil.DateTime) :
    (fixed seconds).offsetOfLocal civil = seconds :=
  rfl

/-- The zone of a daylight-saving rule, with the name under which it was found. -/
def ruled (name : Option String) (rule : Rule) : Zone where
  name? := name
  readingAt instant := rule.readingAt instant.nanoseconds
  offsetOfLocal := rule.offsetOfLocal

/-- The zone of offset zero. -/
def utc : Zone := .fixed 0

/-- The offset in force at an instant, in seconds east. -/
def offsetAt (zone : Zone) (instant : Instant) : Int :=
  (zone.readingAt instant).seconds

/-- The local datetime of an instant. -/
def civilOf (zone : Zone) (instant : Instant) : Civil.DateTime :=
  instant.atOffset (zone.offsetAt instant)

/-- The instant of a local datetime, if it is within the limits. -/
def instantOf? (zone : Zone) (civil : Civil.DateTime) : Option Instant :=
  Instant.ofNanoseconds? (civil.toNanos - zone.offsetOfLocal civil * Civil.secondNanos)

end Zone

/-- An instant seen in a zone. -/
structure Moment where
  instant : Instant
  zone : Zone

namespace Moment

/-- The local datetime of a moment. -/
def civil (moment : Moment) : Civil.DateTime :=
  moment.zone.civilOf moment.instant

/-- The offset of a moment, in seconds east. -/
def offset (moment : Moment) : Int :=
  moment.zone.offsetAt moment.instant

/-- The moment of a local datetime in a zone. -/
def ofCivil? (zone : Zone) (civil : Civil.DateTime) : Option Moment :=
  (zone.instantOf? civil).map (⟨·, zone⟩)

/-- The moment at the same local time some days later, if its date is one that can be written. -/
def addDays? (moment : Moment) (days : Int) : Option Moment :=
  let civil := moment.civil
  let date := civil.date.addDays days
  if Civil.yearInRange date.year then ofCivil? moment.zone { civil with date } else none

end Moment
end Chronometry
