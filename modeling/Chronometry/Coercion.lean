import Chronometry.DateText.Basic
import Chronometry.Instant.Conversion
import Chronometry.Quantity.Conversion

/-!
# Coercion

Texts, quantities of time and values that already are what is asked for become instants and
durations.  The readers of text are given, so that they can be exchanged.
-/

namespace Chronometry

/-- What instants and durations are made from. -/
inductive Source where
  | text (written : String)
  | value (value : Value)
deriving DecidableEq

/-- A reader of date text: the moment that a text denotes, relative to a reference. -/
abbrev DateReader := String -> Moment -> Option Moment

/-- A reader of duration text: the length in milliseconds that a text denotes. -/
abbrev DurationReader := String -> Option Binary64

/-- The reader of everyday dates, which knows the zones of a database. -/
def DateReader.everyday (zones : Zone.Database) : DateReader :=
  fun text reference => DateText.moment? zones text.toList reference

/-- The reader of everyday durations. -/
def DurationReader.everyday : DurationReader :=
  fun text => DurationText.milliseconds? text.toList

namespace Source

/-- The instant that a source denotes.  A text is rounded down to a millisecond, before the epoch as
well, and a quantity is read as a count since the epoch. -/
def toInstant (source : Source) (dates : DateReader) (reference : Moment) : Except Error Instant :=
  match source with
  | .text written =>
    match dates written reference with
    | some moment => Instant.ofNanoseconds (moment.instant.nanoseconds / 1000000 * 1000000)
    | none => .error (.unreadable .instant written)
  | .value (.quantity q) => do
    Instant.ofNanoseconds (← q.toNanoseconds)
  | .value (.instant i) => .ok i
  | .value other => .error (.coercion (.notInstant other))

/-- The duration that a source denotes.  Texts and quantities are read in milliseconds. -/
def toDuration (source : Source) (durations : DurationReader) : Except Error Duration :=
  match source with
  | .text written =>
    match durations written with
    | some milliseconds => Duration.ofMilliseconds milliseconds
    | none => .error (.unreadable .duration written)
  | .value (.quantity q) => do
    Duration.ofMilliseconds (← q.magnitudeIn .millisecond)
  | .value (.duration d) => .ok d
  | .value other => .error (.coercion (.notDuration other))

end Source
end Chronometry
