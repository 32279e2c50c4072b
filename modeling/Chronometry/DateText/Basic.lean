import Chronometry.DateText.Layout
import Chronometry.Duration.Conversion
import Chronometry.DurationText.Basic
import Chronometry.Instant.Arithmetic
import Chronometry.Text.Blank

/-!
# Date text

A date in text is a phrase relative to a reference moment, or an absolute date: a timestamp, a zoned
datetime, or a local date in one of the layouts.  Phrases are understood in any case and are tried
first; the reference supplies the zone.
-/

namespace Chronometry
namespace DateText

/-- A character as it counts in phrases.  Small letters are those of the alphabet; the Kelvin sign
is the one other character whose small form is among them. -/
def foldCase (c : Char) : Char :=
  if c = '\u212a' then 'k' else c.toLower

/-- The parts of a phrase of distance: the duration text, and whether it points backward. -/
def distance? (phrase : List Char) : Option (Bool × List Char) :=
  let behind (ending : String) : Option (List Char) :=
    if ending.toList.isSuffixOf phrase then
      some (phrase.take (phrase.length - ending.length)) else none
  match phrase with
  | 'i' :: 'n' :: ' ' :: rest => some (false, rest)
  | _ => ((behind " ago").map (true, ·)).or ((behind " from now").map (false, ·))

/-- A moment a duration of text away from another one, on the line of absolute time. -/
def offsetBy? (reference : Moment) (backward : Bool) (text : List Char) : Option Moment := do
  let milliseconds ← DurationText.milliseconds? text
  let duration ← (Duration.ofMilliseconds
      (if backward then -milliseconds else milliseconds)).toOption
  let instant ← reference.instant.add? duration
  return { reference with instant }

/-- The moment that a phrase in small letters denotes. -/
def relative? (phrase : List Char) (reference : Moment) : Option Moment :=
  let word := String.ofList phrase
  if word = "now" ∨ word = "today" then some reference
  else if word = "tomorrow" then reference.addDays? 1
  else if word = "yesterday" then reference.addDays? (-1)
  else do
    let (backward, text) ← distance? phrase
    offsetBy? reference backward text

/-- The moment that an absolute date denotes.  A zone that the date names is looked up in a
database, and a date in one of the layouts is read in the zone of the reference. -/
def absolute? (zones : Zone.Database) (text : List Char) (reference : Moment) : Option Moment :=
  match timestamp? text with
  | some instant => some ⟨instant, reference.zone⟩
  | none =>
    match zoned? zones text with
    | some moment => some moment
    | none =>
      match Layout.civil? text with
      | some civil => Moment.ofCivil? reference.zone civil
      | none => none

/-- The moment that a text denotes. -/
def moment? (zones : Zone.Database) (text : List Char) (reference : Moment) : Option Moment :=
  let trimmed := Text.trim text
  if trimmed.isEmpty then none
  else (relative? (trimmed.map foldCase) reference).or (absolute? zones trimmed reference)

end DateText
end Chronometry
