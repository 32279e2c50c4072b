import Chronometry.Civil.DateTime
import Chronometry.Zone.Offset

/-!
# Daylight-saving rules

A rule gives a standard offset and, where there is daylight saving, a second offset with the two
yearly moments at which clocks change.  Each moment is a day of the year and a time of that day,
read on the clock that is about to be changed.  The last part of the module reads rules as text,
such as `EST5EDT,M3.2.0,M11.1.0`.
-/

namespace Chronometry
namespace Zone

/-- A day of every year. -/
inductive YearDay where
  /-- The day counted from 1, with February 29 never counted. -/
  | unleaped (day : Nat)
  /-- The day counted from 0, with February 29 counted in leap years. -/
  | ordinal (day : Nat)
  /-- A weekday of a week of a month; the fifth week is the last one. -/
  | weekday (month week day : Nat)
deriving DecidableEq, Repr

/-- The day number, from 1970-01-01, of a day in a given year, if the year has the day. -/
def YearDay.dayNumber? (day : YearDay) (year : Int) : Option Int :=
  let leap := Civil.isLeapYear year
  let first := Civil.daysBeforeYear year - Civil.epochDay
  match day with
  | .unleaped day => some (first + (day - 1) + (if leap ∧ 60 ≤ day then 1 else 0))
  | .ordinal day => if day < Civil.yearLength leap then some (first + day) else none
  | .weekday month week day =>
    let monthFirst := first + Civil.daysBeforeMonth leap month
    let earliest := (day - (monthFirst + 4)) % 7
    let chosen := earliest + 7 * (week - 1)
    some (monthFirst + if Civil.monthLength leap month ≤ chosen then chosen - 7 else chosen)

/-- A yearly moment: a day, and a number of seconds from its midnight. -/
structure Change where
  day : YearDay
  seconds : Int
deriving DecidableEq, Repr

/-- The moment of a change in a year, in nanoseconds from 1970-01-01T00:00:00, as a clock shows it
that is a number of seconds behind the clock of the rule.  A change is never outside its year: one
that comes to lie before or behind the year happens at its first or last nanosecond, and on a day
that the year does not have it happens at the last one.  The clock of the rule stops at the two ends
of the calendar.  Where the other clock would show a change beyond them, only the sign of its
seconds counts: a change before its midnight happens at the last nanosecond of the year, any other
at the first. -/
def Change.nanos (change : Change) (year behind : Int) : Int :=
  match change.day.dayNumber? year with
  | some day =>
    let ruled := max Civil.calendarStart
      (min ((day * 86400 + change.seconds) * Civil.secondNanos) Civil.calendarEnd)
    let moment := ruled - behind * Civil.secondNanos
    if moment < Civil.calendarStart ∨ Civil.calendarEnd < moment then
      if change.seconds < 0 then Civil.yearEnd year else Civil.yearStart year
    else max (Civil.yearStart year) (min moment (Civil.yearEnd year))
  | none => Civil.yearEnd year

/-- A change happens in its year, whatever clock shows it. -/
theorem Change.nanos_mem_year (change : Change) (year behind : Int) :
    Civil.yearStart year ≤ change.nanos year behind ∧
      change.nanos year behind ≤ Civil.yearEnd year := by
  have order := Civil.yearStart_le_yearEnd year
  unfold Change.nanos
  split
  · simp only
    split
    · split
      · exact ⟨order, Int.le_refl _⟩
      · exact ⟨Int.le_refl _, order⟩
    · omega
  · exact ⟨order, Int.le_refl _⟩

/-- A name with an offset in seconds east. -/
structure Reading where
  name : String
  seconds : Int
deriving DecidableEq, Repr

/-- The daylight-saving time of a rule, which begins at one change and ends at another. -/
structure Daylight where
  reading : Reading
  start : Change
  finish : Change
deriving DecidableEq, Repr

/-- A standard time, and the daylight-saving time if there is one. -/
structure Rule where
  standard : Reading
  daylight : Option Daylight
deriving DecidableEq, Repr

/-- The question whether a moment lies between the start and the end of a season; a season that
begins after it ends in the year spans the turn of the year. -/
def inSeason (start finish moment : Int) : Bool :=
  if start ≤ finish then start ≤ moment ∧ moment < finish else ¬(finish ≤ moment ∧ moment < start)

namespace Rule

open Text (readCount)

/-- The name and offset in force at a moment of absolute time, in nanoseconds.  The changes are
those of the year that the moment has at offset zero. -/
def readingAt (rule : Rule) (nanos : Int) : Reading :=
  match rule.daylight with
  | none => rule.standard
  | some daylight =>
    let year := (Civil.DateTime.ofNanos nanos).date.year
    let start := daylight.start.nanos year rule.standard.seconds
    let finish := daylight.finish.nanos year daylight.reading.seconds
    if inSeason start finish nanos then daylight.reading else rule.standard

/-- The offset by which a local time is read.  Times that are skipped where clocks are put forward
and times that occur twice where they are put back are read by the offset before the change.  With a
daylight-saving time ahead of standard time they lie within the season and those skipped come first;
with one behind it they lie outside the season and those that occur twice come first.  The last
nanosecond of the calendar is never skipped. -/
def offsetOfLocal (rule : Rule) (civil : Civil.DateTime) : Int :=
  match rule.daylight with
  | none => rule.standard.seconds
  | some daylight =>
    let moment := civil.toNanos
    let start := daylight.start.nanos civil.date.year 0
    let finish := daylight.finish.nanos civil.date.year 0
    let gain := (daylight.reading.seconds - rule.standard.seconds) * Civil.secondNanos
    if inSeason start finish moment then
      if start ≤ moment ∧
        moment < min (start + gain) Civil.calendarEnd then rule.standard.seconds
      else daylight.reading.seconds
    else
      if start + gain ≤ moment ∧ moment < start then rule.standard.seconds
      else if finish ≤ moment ∧
        moment < min (finish - gain) Civil.calendarEnd then daylight.reading.seconds
      else rule.standard.seconds

/-- A count below 60 in two digits behind a colon, or zero where there is no colon. -/
def readSixtieth : List Char -> Option (Nat × List Char)
  | ':' :: rest => do
    let (count, rest) ← readCount 2 rest
    if count < 60 then some (count, rest) else none
  | rest => some (0, rest)

/-- A signed time in hours, minutes and seconds, in seconds. -/
def readClock (digits hours : Nat) (text : List Char) : Option (Int × List Char) := do
  let (sign, text) := match text with
    | '-' :: rest => (-1, rest)
    | '+' :: rest => (1, rest)
    | rest => ((1 : Int), rest)
  let (hour, text) ← readCount digits text
  let (minute, text) ← readSixtieth text
  let (second, text) ← readSixtieth text
  if hour ≤ hours then some (sign * ((hour * 60 + minute) * 60 + second), text) else none

/-- The name of a time: at least three letters, or three characters of a wider class between angle
brackets. -/
def readName : List Char -> Option (String × List Char)
  | '<' :: rest =>
    let name := rest.takeWhile fun c => c.isAlphanum || c == '+' || c == '-'
    match rest.dropWhile fun c => c.isAlphanum || c == '+' || c == '-' with
    | '>' :: rest => if 3 ≤ name.length then some (String.ofList name, rest) else none
    | _ => none
  | text =>
    let name := text.takeWhile Char.isAlpha
    if 3 ≤ name.length then some (String.ofList name, text.dropWhile Char.isAlpha) else none

/-- A day of the year. -/
def readYearDay : List Char -> Option (YearDay × List Char)
  | 'J' :: rest => do
    let (day, rest) ← readCount 3 rest
    if 1 ≤ day ∧ day ≤ 365 then some (.unleaped day, rest) else none
  | 'M' :: rest => do
    let (month, rest) ← readCount 2 rest
    let '.' :: rest := rest | none
    let (week, rest) ← readCount 1 rest
    let '.' :: rest := rest | none
    let (day, rest) ← readCount 1 rest
    if (1 ≤ month ∧ month ≤ 12) ∧ (1 ≤ week ∧ week ≤ 5) ∧
      day ≤ 6 then some (.weekday month week day, rest) else none
  | text => do
    let (day, rest) ← readCount 3 text
    if day ≤ 365 then some (.ordinal day, rest) else none

/-- A change behind its comma; the time of day is two o'clock where none is given. -/
def readChange : List Char -> Option (Change × List Char)
  | ',' :: rest => do
    let (day, rest) ← readYearDay rest
    match rest with
    | '/' :: rest => do
      let (seconds, rest) ← readClock 3 167 rest
      return (⟨day, seconds⟩, rest)
    | rest => some (⟨day, 7200⟩, rest)
  | _ => none

/-- The rule that a whole text denotes.  Offsets are written with the sign reversed, positive to the
west, and daylight saving is an hour ahead of standard time where its offset is not given. -/
def ofText? (text : List Char) : Option Rule := do
  let (name, text) ← readName text
  let (west, text) ← readClock 2 24 text
  if text.isEmpty then return ⟨⟨name, -west⟩, none⟩
  let (lightName, text) ← readName text
  let (lightWest, text) ← match text with
    | ',' :: _ => some (west - 3600, text)
    | text => readClock 2 24 text
  let (start, text) ← readChange text
  let (finish, text) ← readChange text
  if text.isEmpty then
    return ⟨⟨name, -west⟩, some ⟨⟨lightName, -lightWest⟩, start, finish⟩⟩ else none

end Rule
end Zone
end Chronometry
