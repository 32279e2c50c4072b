import Chronometry.Binary64.Decimal

/-!
# Reading binary64 numbers

The grammar of a number is an optional sign followed by `inf`, `infinity` or `nan` in any case, or
by digits with at most one point among them and an optional exponent.  There must be at least one
digit, before or behind the point.
-/

namespace Chronometry
namespace Binary64

/-- An optional sign at the head of a text: whether it is a minus, and what follows. -/
def readSign : List Char -> Bool × List Char
  | '-' :: rest => (true, rest)
  | '+' :: rest => (false, rest)
  | rest => (false, rest)

/-- The exponent of a number: nothing, or the letter `e` with a signed count.  The whole text is
consumed. -/
def exponent? : List Char -> Option Int
  | [] => some 0
  | c :: rest =>
    if c = 'e' ∨ c = 'E' then
      let (negative, digits) := readSign rest
      if digits.isEmpty || !digits.all Char.isDigit then none
      else some (signed negative (Text.natOfDigits digits))
    else none

/-- The fraction digits of a number, if a point begins the text, and what follows them. -/
def readFraction : List Char -> List Char × List Char
  | '.' :: rest => Text.spanDigits rest
  | rest => ([], rest)

/-- A number in decimal digits. -/
def decimal? (negative : Bool) (body : List Char) : Option Binary64 :=
  let (whole, afterWhole) := Text.spanDigits body
  let (fraction, afterFraction) := readFraction afterWhole
  if whole.isEmpty && fraction.isEmpty then none
  else (exponent? afterFraction).map fun exponent =>
    ofDecimal negative (Text.natOfDigits (whole ++ fraction)) (exponent - fraction.length)

/-- The number that a whole text denotes. -/
def ofText? (text : List Char) : Option Binary64 :=
  let (negative, body) := readSign text
  let word := String.ofList (body.map Char.toLower)
  if word = "inf" ∨ word = "infinity" then some (.infinity negative)
  else if word = "nan" then some .nan
  else decimal? negative body

end Binary64
end Chronometry
