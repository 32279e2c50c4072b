import Chronometry.Text.Digits
import Chronometry.Zone.Basic

/-!
# Written moments

The standard form of a moment is a date, a time of day behind a space or a `T`, an offset, and notes
in brackets, of which the first may name a zone.  Parts of the date and of the time are separated,
or all of them run together.  A timestamp needs a time and an offset; a zoned datetime needs a zone.
-/

namespace Chronometry
namespace DateText

open Text (readFixed)

/-- A zone that a note names. -/
inductive ZoneNote where
  | name (name : String)
  | offset (seconds : Int)
deriving DecidableEq

/-- The parts of a written moment. -/
structure Written where
  date : Civil.Date
  time : Option Civil.TimeOfDay
  offset : Option Int
  zone : Option ZoneNote
deriving DecidableEq

/-- A year in four digits, or in six digits behind a sign.  A negative year zero is refused. -/
def readYear : List Char -> Option (Int × List Char)
  | '-' :: rest => do
    let (year, rest) ← readFixed 6 rest
    if year = 0 then none else some (-year, rest)
  | '+' :: rest => do
    let (year, rest) ← readFixed 6 rest
    return (year, rest)
  | text => do
    let (year, rest) ← readFixed 4 text
    return (year, rest)

/-- A text without the separator that parts of its form are written with; a text in running form has
none. -/
def afterSeparator (separator : Char) (separated : Bool) (text : List Char) : Option (List Char) :=
  match separated, text with
  | true, c :: rest => if c = separator then some rest else none
  | true, [] => none
  | false, text => some text

/-- A date that exists, with hyphens or run together. -/
def readDate (text : List Char) : Option (Civil.Date × List Char) := do
  let (year, text) ← readYear text
  let separated := text.head? = some '-'
  let (month, text) ← readFixed 2 (← afterSeparator '-' separated text)
  let (day, text) ← readFixed 2 (← afterSeparator '-' separated text)
  if !Civil.yearInRange year then none
  else
    let date ← Civil.Date.ofParts? year month day
    return (date, text)

/-- The question whether another pair of digits follows in a form with or without separators. -/
def hasMore (separator : Char) (separated : Bool) (text : List Char) : Bool :=
  if separated then text.head? = some separator else (readFixed 2 text).isSome

/-- A fraction of a second in nanoseconds, behind a point or a comma, in one to nine digits; zero
where there is none. -/
def readFraction : List Char -> Option (Nat × List Char)
  | c :: rest =>
    if c = '.' ∨ c = ',' then
      let digits := (rest.takeWhile Char.isDigit).take 9
      if digits.isEmpty then none
      else some (Text.natOfDigits digits * Nat.pow 10 (9 - digits.length), rest.drop digits.length)
    else some (0, c :: rest)
  | [] => some (0, [])

/-- A second; the sixtieth is read as the one before it. -/
def leapSecond (second : Nat) : Nat :=
  if second = 60 then 59 else second

/-- A time of day, with colons or run together.  Minutes and seconds may be left out from the
end. -/
def readTime (text : List Char) : Option (Civil.TimeOfDay × List Char) := do
  let (hour, text) ← readFixed 2 text
  let separated := text.head? = some ':'
  if !hasMore ':' separated text then
    return (← Civil.TimeOfDay.ofParts? hour 0 0 0, text)
  let (minute, text) ← readFixed 2 (← afterSeparator ':' separated text)
  if !hasMore ':' separated text then
    return (← Civil.TimeOfDay.ofParts? hour minute 0 0, text)
  let (second, text) ← readFixed 2 (← afterSeparator ':' separated text)
  let (nanosecond, text) ← readFraction text
  return (← Civil.TimeOfDay.ofParts? hour minute (leapSecond second) nanosecond, text)

/-- The size of an offset in hours and minutes, and in seconds where those are admitted.  Behind the
seconds may stand a fraction, which is rounded to the nearest second, a half upward; what is rounded
beyond the limit of offsets is refused. -/
def readOffsetSize (seconds : Bool) (text : List Char) : Option (Nat × List Char) := do
  let (hour, text) ← readFixed 2 text
  if 25 < hour then none
  let separated := text.head? = some ':'
  if !hasMore ':' separated text then
    return (hour * 3600, text)
  let (minute, text) ← readFixed 2 (← afterSeparator ':' separated text)
  if 59 < minute then none
  if !seconds || !hasMore ':' separated text then
    return (hour * 3600 + minute * 60, text)
  let (second, text) ← readFixed 2 (← afterSeparator ':' separated text)
  if 59 < second then none
  let (nanosecond, text) ← readFraction text
  let size :=
    hour * 3600 + minute * 60 + second + if 2 * nanosecond < Civil.secondNanos then 0 else 1
  if size ≤ Offset.limit then some (size, text) else none

/-- A signed offset, in seconds. -/
def readSignedOffset (seconds : Bool) : List Char -> Option (Int × List Char)
  | '+' :: rest => do
    let (size, rest) ← readOffsetSize seconds rest
    return (size, rest)
  | '-' :: rest => do
    let (size, rest) ← readOffsetSize seconds rest
    return (-size, rest)
  | _ => none

/-- An optional offset: the letter for zero, or a signed offset. -/
def readOffset : List Char -> Option (Option Int × List Char)
  | [] => some (none, [])
  | c :: rest =>
    if c = 'Z' ∨ c = 'z' then some (some 0, rest)
    else if c = '+' ∨ c = '-' then (readSignedOffset true (c :: rest)).map fun (seconds, rest) =>
      (some seconds, rest)
    else some (none, c :: rest)

/-- An optional time with its optional offset, behind a space or a `T`. -/
def readClock : List Char -> Option (Option Civil.TimeOfDay × Option Int × List Char)
  | [] => some (none, none, [])
  | c :: rest =>
    if c = ' ' ∨ c = 'T' ∨ c = 't' then do
      let (time, rest) ← readTime rest
      let (offset, rest) ← readOffset rest
      return (some time, offset, rest)
    else some (none, none, c :: rest)

/-- The contents of the bracketed notes that make up a text. -/
def notes? (text : List Char) : Option (List (List Char)) :=
  match text with
  | [] => some []
  | '[' :: text =>
    match closed : text.dropWhile (· != ']') with
    | _ :: rest =>
      have : rest.length < text.length := by
        have shorter := (List.dropWhile_sublist (l := text) (· != ']')).length_le
        rw [closed, List.length_cons] at shorter
        omega
      (notes? rest).map (text.takeWhile (· != ']') :: ·)
    | [] => none
  | _ => none
termination_by text.length

/-- The question whether a note is the name of a zone: components with a slash between, each
beginning with a letter, a point or an underscore.  The first argument says that a component is
about to begin. -/
def isZoneName : Bool -> List Char -> Bool
  | fresh, [] => !fresh
  | true, c :: rest => (c.isAlpha || c == '.' || c == '_') && isZoneName false rest
  | false, c :: rest =>
    if c = '/' then isZoneName true rest
    else (c.isAlphanum || c == '.' || c == '_' || c == '-' || c == '+') && isZoneName false rest

/-- The zone that a note names: an offset without seconds, or a name. -/
def zoneNote? (note : List Char) : Option ZoneNote :=
  if note.head? = some '+' ∨ note.head? = some '-' then
    match readSignedOffset false note with
    | some (seconds, []) => some (.offset seconds)
    | _ => none
  else if isZoneName true note then some (.name (String.ofList note))
  else none

/-- The question whether a text is a key: small letters, digits, hyphens and underscores, not
beginning with a digit or a hyphen. -/
def isKey (text : List Char) : Bool :=
  match text with
  | c :: rest =>
    (c.isLower || c == '_') && rest.all fun c => c.isLower || c.isDigit || c == '_' || c == '-'
  | [] => false

/-- The question whether a text is a value: runs of letters and digits with a hyphen between.  The
first argument says that a run is about to begin. -/
def isValue : Bool -> List Char -> Bool
  | fresh, [] => !fresh
  | true, c :: rest => c.isAlphanum && isValue false rest
  | false, c :: rest => if c = '-' then isValue true rest else c.isAlphanum && isValue false rest

/-- The question whether a note is a key with a value.  One that is marked as critical is not, for
no key is known. -/
def isPair (note : List Char) : Bool :=
  isKey (note.takeWhile (· != '=')) && isValue true ((note.dropWhile (· != '=')).drop 1)

/-- A note without the mark that makes it critical. -/
def withoutMark : List Char -> List Char
  | '!' :: rest => rest
  | note => note

/-- The zone that a row of notes names, if its first note does; all other notes must be pairs. -/
def zoneOfNotes? (notes : List (List Char)) : Option (Option ZoneNote) :=
  match notes with
  | [] => some none
  | note :: others =>
    if note.contains '=' then if notes.all isPair then some none else none
    else if others.all isPair then (zoneNote? (withoutMark note)).map some else none

/-- The parts of a written moment that takes up a whole text. -/
def written? (text : List Char) : Option Written := do
  let (date, text) ← readDate text
  let (time, offset, text) ← readClock text
  let zone ← zoneOfNotes? (← notes? text)
  return ⟨date, time, offset, zone⟩

/-- The instant of a timestamp.  A zone that it may name does not count. -/
def timestamp? (text : List Char) : Option Instant := do
  let written ← written? text
  match written.time, written.offset with
  | some time, some offset => (Zone.fixed offset).instantOf? ⟨written.date, time⟩
  | _, _ => none

/-- The zone that a note stands for, by a database of zones. -/
def ZoneNote.zone? (zones : Zone.Database) : ZoneNote -> Option Zone
  | .name text => zones text
  | .offset seconds => some (.fixed seconds)

/-- The moment of a zoned datetime without an offset, in its own zone.  Without a time it is
midnight. -/
def zoned? (zones : Zone.Database) (text : List Char) : Option Moment := do
  let written ← written? text
  let zone ← (← written.zone).zone? zones
  match written.offset with
  | none => Moment.ofCivil? zone ⟨written.date, written.time.getD .midnight⟩
  | some _ => none

end DateText
end Chronometry
