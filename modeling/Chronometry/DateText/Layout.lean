import Chronometry.Civil.Names
import Chronometry.DateText.Written

/-!
# Layouts of dates

A layout is a row of elements: parts of a date or of a time, characters that stand for themselves,
and places where blanks may stand.  A text has a layout when the elements take it up from beginning
to end, and the date that they give exists.
-/

namespace Chronometry
namespace DateText

/-- An element of a layout. -/
inductive Element where
  | year | month | day | hour | minute | second
  | monthName | monthShort
  | blank
  | literal (c : Char)
deriving DecidableEq, Repr

/-- The parts that the elements of a layout have given so far. -/
structure Parts where
  year : Int
  month : Nat
  day : Nat
  hour : Nat
  minute : Nat
  second : Nat
deriving DecidableEq

/-- The parts before any element: dates need every part of a date, and a time left out is
midnight. -/
def Parts.initial : Parts := ⟨0, 0, 0, 0, 0, 0⟩

/-- The blanks that count in layouts: space, tab, line feed, form feed and carriage return. -/
def isLayoutBlank (c : Char) : Bool :=
  c == ' ' || c == '\t' || c == '\n' || c == '\x0c' || c == '\r'

/-- A number behind optional blanks, in at least one digit and at most the given number of
digits. -/
def readNumber (most : Nat) (text : List Char) : Option (Nat × List Char) :=
  Text.readCount most (text.dropWhile isLayoutBlank)

/-- A year, in up to four digits behind an optional sign. -/
def readSignedYear : List Char -> Option (Int × List Char)
  | '-' :: rest => (readNumber 4 rest).map fun (year, rest) => (-year, rest)
  | '+' :: rest => (readNumber 4 rest).map fun (year, rest) => (year, rest)
  | text => (readNumber 4 text).map fun (year, rest) => (year, rest)

/-- The number of the first name that a text begins with, in whatever case, counted from 1, and what
follows it. -/
def readName (names : List String) (text : List Char) : Option (Nat × List Char) :=
  let begins (name : String) :=
    name.toLower == String.ofList ((text.take name.length).map Char.toLower)
  match names.findIdx? begins with
  | some index => some (index + 1, text.drop (names.getD index "").length)
  | none => none

/-- A number within bounds. -/
def readBounded (low high : Nat) (text : List Char) : Option (Nat × List Char) := do
  let (number, rest) ← readNumber 2 text
  if low ≤ number ∧ number ≤ high then some (number, rest) else none

/-- One element of a layout at the head of a text: the parts with it, and what follows it. -/
def readElement (element : Element) (parts : Parts) (text : List Char) :
    Option (Parts × List Char) :=
  match element with
  | .year => (readSignedYear text).map fun (year, rest) => ({ parts with year }, rest)
  | .month => (readBounded 1 12 text).map fun (month, rest) => ({ parts with month }, rest)
  | .day => (readBounded 1 31 text).map fun (day, rest) => ({ parts with day }, rest)
  | .hour => (readBounded 0 23 text).map fun (hour, rest) => ({ parts with hour }, rest)
  | .minute => (readBounded 0 59 text).map fun (minute, rest) => ({ parts with minute }, rest)
  | .second =>
      (readBounded 0 60 text).map fun (second, rest) =>
        ({ parts with second := leapSecond second }, rest)
  | .monthName =>
      (readName Civil.monthNames text).map fun (month, rest) => ({ parts with month }, rest)
  | .monthShort =>
    (readName (Civil.monthNames.map Civil.abbreviated) text).map fun (month, rest) =>
      ({ parts with month }, rest)
  | .blank => some (parts, text.dropWhile isLayoutBlank)
  | .literal c => if text.head? = some c then some (parts, text.drop 1) else none

/-- A row of elements. -/
abbrev Layout := List Element

/-- The parts that a layout finds in a whole text. -/
def Layout.parts? (layout : Layout) (text : List Char) : Option Parts := do
  let (parts, rest) ← layout.foldlM (fun state element => readElement element state.1 state.2)
      (Parts.initial, text)
  if rest.isEmpty then some parts else none

/-- The date that the parts give, if it exists. -/
def Parts.date? (parts : Parts) : Option Civil.Date :=
  Civil.Date.ofParts? parts.year parts.month parts.day

/-- The local datetime that the parts give, if its date exists. -/
def Parts.dateTime? (parts : Parts) : Option Civil.DateTime := do
  return ⟨← parts.date?, ← Civil.TimeOfDay.ofParts? parts.hour parts.minute parts.second 0⟩

namespace Layout

/-- Year, month and day with hyphens between. -/
def hyphenDate : Layout := [.year, .literal '-', .month, .literal '-', .day]

/-- Month, day and year with slashes between. -/
def slashDate : Layout := [.month, .literal '/', .day, .literal '/', .year]

/-- Hours and minutes with a colon between. -/
def hourMinute : Layout := [.hour, .literal ':', .minute]

/-- Hours, minutes and seconds with colons between. -/
def hourMinuteSecond : Layout := hourMinute ++ [.literal ':', .second]

/-- The layouts of a date with a time, in the order in which they are tried. -/
def dateTimes : List Layout :=
  [hyphenDate ++ [.literal 'T'] ++ hourMinuteSecond,
    hyphenDate ++ [.blank] ++ hourMinuteSecond,
    hyphenDate ++ [.literal 'T'] ++ hourMinute,
    hyphenDate ++ [.blank] ++ hourMinute,
    slashDate ++ [.blank] ++ hourMinuteSecond,
    slashDate ++ [.blank] ++ hourMinute]

/-- The layouts of a date with the month as a word, for one way of naming months. -/
def wordDates (name : Element) : List Layout :=
  [[name, .blank, .day, .literal ',', .blank, .year],
    [name, .blank, .day, .blank, .year],
    [.day, .blank, name, .blank, .year]]

/-- The layouts of a date alone, in the order in which they are tried. -/
def dates : List Layout :=
  [hyphenDate, slashDate] ++ wordDates .monthName ++ wordDates .monthShort

/-- The local datetime of a text in one of the layouts, the first that it has.  A date alone stands
for its noon. -/
def civil? (text : List Char) : Option Civil.DateTime :=
  let dated (layout : Layout) : Option Civil.DateTime := do
    (← layout.parts? text).dateTime?
  let noon (layout : Layout) : Option Civil.DateTime := do
    return ⟨← (← layout.parts? text).date?, .noon⟩
  (dateTimes.findSome? dated).or (dates.findSome? noon)

end Layout
end DateText
end Chronometry
