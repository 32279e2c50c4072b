import Chronometry.DurationText.DecimalTerms
import Chronometry.DurationText.ExactTerms

/-!
# Duration text

A duration in text is an optional sign and a body.  The body is a bare number of milliseconds, or a
row of exact terms, or a row of decimal terms; the first of these that reads it counts.
-/

namespace Chronometry
namespace DurationText

/-- The length in milliseconds that the body of a text denotes.  A bare number must be finite. -/
def bodyMilliseconds? (body : List Char) : Option Binary64 :=
  match Binary64.ofText? body with
  | some number => if number.isFinite then some number else none
  | none =>
    match exactNanoseconds? body with
    | some nanoseconds => some (millisecondsOf nanoseconds)
    | none => decimalMilliseconds? body

/-- The question whether a text begins with a sign. -/
def beginsSigned : List Char -> Bool
  | c :: _ => c == '+' || c == '-'
  | [] => false

/-- The body of a trimmed text without its sign, and whether the sign is a minus. -/
def splitSign : List Char -> Bool × List Char
  | '-' :: rest => (true, Text.trimStart rest)
  | '+' :: rest => (false, Text.trimStart rest)
  | text => (false, text)

/-- The length in milliseconds that a text denotes.  A body must not be empty, nor begin with a
second sign. -/
def milliseconds? (text : List Char) : Option Binary64 :=
  let (negative, body) := splitSign (Text.trim text)
  if body.isEmpty || beginsSigned body then none
  else (bodyMilliseconds? body).map fun length => if negative then -length else length

end DurationText
end Chronometry
