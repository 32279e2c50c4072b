import Chronometry.Text.Digits

/-!
# Offsets

An offset is a number of seconds east of the prime meridian's time.  This module holds its written
forms: with or without colons between hours, minutes and seconds, the seconds only if there are any.
-/

namespace Chronometry
namespace Offset

/-- The largest offset, in seconds in either direction: one second less than 26 hours. -/
def limit : Nat := 93599

/-- The sign of an offset; an offset of zero is positive. -/
def signText (seconds : Int) : String :=
  if seconds < 0 then "-" else "+"

/-- An offset in hours and minutes, and in seconds if there are any, with a separator between. -/
def text (separator : String) (seconds : Int) : String :=
  let size := seconds.natAbs
  let minutes := Text.zeroPadded 2 (size / 3600) ++ separator ++ Text.zeroPadded 2 (size / 60 % 60)
  signText seconds ++ minutes ++ if size % 60 = 0 then ""
    else separator ++ Text.zeroPadded 2 (size % 60)

/-- An offset that serves as the name of a zone: hours alone where there is nothing else, and `UTC`
for zero. -/
def name (seconds : Int) : String :=
  if seconds = 0 then "UTC"
  else if seconds.natAbs % 3600 = 0 then
    signText seconds ++ Text.zeroPadded 2 (seconds.natAbs / 3600)
  else text ":" seconds

end Offset
end Chronometry
