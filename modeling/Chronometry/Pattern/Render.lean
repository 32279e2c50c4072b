import Chronometry.Civil.Names
import Chronometry.Pattern.Basic
import Chronometry.Zone.Basic

/-!
# Rendering of patterns

A pattern is written for a moment part by part.  The only counts that may be missing are the years
of a century, which are written for the years 1969 to 2068 alone.
-/

namespace Chronometry
namespace Pattern

/-- The last two digits of a year, for the hundred years that they tell apart. -/
def twoDigitYear? (year : Int) : Option Int :=
  if 1969 ≤ year ∧ year ≤ 2068 then some (year % 100) else none

/-- The number of the week of a year, where weeks begin some days after Sunday and days before the
first week are in week zero. -/
def weekOfYear (date : Civil.Date) (daysAfterSunday : Nat) : Nat :=
  (date.ordinal + 7 - (date.weekday + 7 - daysAfterSunday) % 7) / 7

/-- The value of a count for a moment. -/
def Count.value? (count : Count) (moment : Moment) : Option Int :=
  let civil := moment.civil
  match count with
  | .year => some civil.date.year
  | .yearOfCentury => twoDigitYear? civil.date.year
  | .century => some (civil.date.year.tdiv 100)
  | .weekYear => some civil.date.weekYear
  | .weekYearOfCentury => twoDigitYear? civil.date.weekYear
  | .month => some civil.date.month
  | .day => some civil.date.day
  | .dayOfYear => some (civil.date.ordinal + 1)
  | .weekOfSundays => some (weekOfYear civil.date 0)
  | .weekOfMondays => some (weekOfYear civil.date 1)
  | .weekdayFromMonday => some ((civil.date.weekday + 6) % 7 + 1)
  | .weekdayFromSunday => some civil.date.weekday
  | .hour => some civil.time.hour
  | .clockHour => some civil.time.clockHour
  | .minute => some civil.time.minute
  | .second => some civil.time.second
  | .unixSeconds => some (moment.instant.nanoseconds.tdiv 1000000000)

/-- The most digits to which a count is padded. -/
def widestCount : Nat := 19

/-- A count as it is written: a minus comes before the padding and does not count for the width. -/
def renderCount (value : Int) (filler : Char) (width : Nat) (modifier : Modifier) : String :=
  let filler := match modifier.flag with
    | some .zeros => '0'
    | some .spaces => ' '
    | _ => filler
  let width := if modifier.flag = some .unpadded then 0 else modifier.width.getD width
  (if value < 0 then "-" else "") ++ Text.padded filler (min width widestCount) value.natAbs

/-- The text of a word for a moment, and whether it stands in capitals by itself. -/
def Word.text (word : Word) (moment : Moment) : String × Bool :=
  let civil := moment.civil
  let morning := decide (civil.time.hour < 12)
  match word with
  | .weekday => (Civil.weekdayName civil.date.weekday, false)
  | .weekdayShort => (Civil.abbreviated (Civil.weekdayName civil.date.weekday), false)
  | .month => (Civil.monthName civil.date.month, false)
  | .monthShort => (Civil.abbreviated (Civil.monthName civil.date.month), false)
  | .half => (if morning then "AM" else "PM", true)
  | .halfSmall => (if morning then "am" else "pm", false)
  | .zone => ((moment.zone.readingAt moment.instant).name, true)

/-- A word as it is written.  Swapping the case concerns words in capitals alone. -/
def renderWord (word : Word) (modifier : Modifier) (moment : Moment) : String :=
  let (text, capitals) := word.text moment
  match modifier.flag with
  | some .upperCase => text.toUpper
  | some .swapCase => if capitals then text.toLower else text
  | _ => if capitals then text.toUpper else text

/-- A fraction of a second in nanoseconds, with a number of digits or without trailing zeros. -/
def renderDigits (nanoseconds : Nat) : Option Nat -> String
  | some width => String.ofList ((Text.zeroPadded 9 nanoseconds).toList.take width)
  | none => Text.fractionDigits 9 nanoseconds

/-- The fraction of the second as it is written.  With its point it vanishes when there is nothing
to write; without, it has at least one digit and no width of zero. -/
def renderFraction? (nanoseconds : Nat) (pointed : Bool) (width : Option Nat) : Option String :=
  if pointed then
    if width = some 0 ∨ (width = none ∧ nanoseconds = 0) then some ""
      else some ("." ++ renderDigits nanoseconds width)
  else if width = some 0 then none
  else if width = none ∧ nanoseconds = 0 then some "0"
  else some (renderDigits nanoseconds width)

/-- One part of a pattern as it is written for a moment. -/
def Piece.render? (piece : Piece) (moment : Moment) : Option String :=
  match piece with
  | .literal c => some (String.singleton c)
  | .count what filler width modifier =>
    (what.value? moment).map fun value => renderCount value filler width modifier
  | .word what modifier => some (renderWord what modifier moment)
  | .fraction pointed width => renderFraction? moment.civil.time.nanosecond pointed width
  | .offset separator => some (Offset.text separator moment.offset)
  | .zoneName separator => some (moment.zone.name?.getD (Offset.text separator moment.offset))

/-- A pattern as it is written for a moment. -/
def render? (pattern : Pattern) (moment : Moment) : Option String :=
  (pattern.mapM fun piece => Piece.render? piece moment).map String.join

end Pattern
end Chronometry
