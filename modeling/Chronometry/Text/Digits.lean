/-!
# Decimal digits

Reading and writing of counts in decimal digits, and the small pieces of layout that go with them:
signs and padding.
-/

namespace Chronometry
namespace Text

/-- The longest run of decimal digits at the head of a text, and what follows it. -/
def spanDigits (text : List Char) : List Char × List Char :=
  (text.takeWhile Char.isDigit, text.dropWhile Char.isDigit)

theorem length_spanDigits_le (text : List Char) : (spanDigits text).2.length ≤ text.length :=
  (List.dropWhile_sublist _).length_le

/-- The count that a run of decimal digits denotes. -/
def natOfDigits (digits : List Char) : Nat :=
  Nat.ofDigitChars 10 digits 0

/-- A run of at least one digit and at most a given number of digits at the head of a text, as a
count. -/
def readCount (most : Nat) (text : List Char) : Option (Nat × List Char) :=
  let digits := (text.takeWhile Char.isDigit).take most
  if digits.isEmpty then none else some (natOfDigits digits, text.drop digits.length)

/-- A count in exactly the given number of digits at the head of a text. -/
def readFixed (places : Nat) (text : List Char) : Option (Nat × List Char) :=
  let digits := text.take places
  if digits.length = places && digits.all Char.isDigit then
    some (natOfDigits digits, text.drop places) else none

/-- The decimal digits of a count, with at least the given number of characters. -/
def padded (filler : Char) (width : Nat) (n : Nat) : String :=
  let digits := toString n
  String.ofList (List.replicate (width - digits.length) filler) ++ digits

/-- A count with leading zeros up to the given number of digits. -/
def zeroPadded (width : Nat) (n : Nat) : String :=
  padded '0' width n

/-- A text without the zeros that it ends with. -/
def dropTrailingZeros (digits : List Char) : List Char :=
  (digits.reverse.dropWhile (· == '0')).reverse

/-- The fraction of a unit that has `10 ^ places` parts, without trailing zeros. -/
def fractionDigits (places : Nat) (parts : Nat) : String :=
  String.ofList (dropTrailingZeros (zeroPadded places parts).toList)

/-- A fraction behind its point, or nothing when there is no fraction. -/
def pointedFraction (places : Nat) (parts : Nat) : String :=
  if parts = 0 then "" else "." ++ fractionDigits places parts

end Text
end Chronometry
