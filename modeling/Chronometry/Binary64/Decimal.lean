import Chronometry.Binary64.Basic
import Chronometry.Text.Digits

/-!
# Binary64 numbers and decimals

A decimal is a count of digits' value with a power of ten.  Reading one rounds its exact value once.
Writing a number chooses the shortest decimal that reads back as the number, and of two such
decimals the nearer one; an exact tie goes away from zero.
-/

namespace Chronometry
namespace Binary64

/-- The number nearest to `digits * 10 ^ exponent`.  Exponents whose result is certainly infinite or
zero are settled before the power is formed: every decimal from `10 ^ 331` on is beyond the limit,
and a decimal below `2 ^ (-1080)` is less than half a quantum. -/
def ofDecimal (negative : Bool) (digits : Nat) (exponent : Int) : Binary64 :=
  if digits = 0 then zero negative
  else if 330 < exponent then .infinity negative
  else if 0 ≤ exponent then round negative (digits * Nat.pow 10 exponent.toNat * quantaPerOne) 1
  else if digits.log2 + 1 + 3 * exponent < -1080 then zero negative
  else round negative (digits * quantaPerOne) (Nat.pow 10 (-exponent).toNat)

/-- A positive decimal: the value of its digits and the power of ten of the last one. -/
structure Decimal where
  digits : Nat
  exponent : Int
deriving DecidableEq, Repr

namespace Decimal

/-- The value of a decimal in quarters of a quantum, as numerator and denominator. -/
def quarters (d : Decimal) : Nat × Nat :=
  if 0 ≤ d.exponent then (4 * quantaPerOne * d.digits * Nat.pow 10 d.exponent.toNat, 1)
  else (4 * quantaPerOne * d.digits, Nat.pow 10 (-d.exponent).toNat)

end Decimal

/-- Half the distance from a magnitude to the next larger one, in quarters of a quantum. -/
def gapAbove (quanta : Nat) : Nat :=
  2 * Nat.pow 2 (roundingShift quanta)

/-- Half the distance from a magnitude to the next smaller one, in quarters of a quantum.  Below a
power of two the magnitudes stand twice as close. -/
def gapBelow (quanta : Nat) : Nat :=
  if 0 < roundingShift quanta && quanta == Nat.pow 2 quanta.log2 then
    Nat.pow 2 (roundingShift quanta) else gapAbove quanta

/-- The question whether a decimal rounds to the magnitude: it lies between the midpoints to the two
neighbours, which belong to the magnitude exactly when its last significant bit is zero. -/
def readsBack (quanta : Nat) (d : Decimal) : Bool :=
  let (numerator, denominator) := d.quarters
  let low := (4 * quanta - gapBelow quanta) * denominator
  let high := (4 * quanta + gapAbove quanta) * denominator
  if quanta / Nat.pow 2 (roundingShift quanta) % 2 = 0 then low ≤ numerator && numerator ≤ high
  else low < numerator && numerator < high

/-- The decimal just below or at the magnitude on the grid of multiples of `10 ^ exponent`. -/
def floorOnGrid (quanta : Nat) (exponent : Int) : Decimal where
  digits :=
    if 0 ≤ exponent then quanta / (quantaPerOne * Nat.pow 10 exponent.toNat)
    else quanta * Nat.pow 10 (-exponent).toNat / quantaPerOne
  exponent := exponent

/-- The nearer of the magnitude's two neighbours on a decimal grid, among those that read back. -/
def nearestOnGrid? (quanta : Nat) (exponent : Int) : Option Decimal :=
  let below := floorOnGrid quanta exponent
  let above : Decimal := { below with digits := below.digits + 1 }
  match readsBack quanta below, readsBack quanta above with
  | false, false => none
  | true, false => some below
  | false, true => some above
  | true, true =>
    let (low, denominator) := below.quarters
    let (high, _) := above.quarters
    if low + high ≤ 2 * (4 * quanta * denominator) then some above else some below

/-- The shortest decimal that reads back as a positive magnitude.  The grids are tried from the
first power of ten above the magnitude downward; seventeen significant digits always suffice, so
that 24 grids hold a hit. -/
def shortest (quanta : Nat) : Decimal :=
  let top : Int := Int.fdiv ((quanta.log2 - 1073) * 30103) 100000 + 1
  ((List.range 24).findSome? fun (step : Nat) => nearestOnGrid? quanta (top - step)).getD
    (floorOnGrid quanta (top - 24))

/-- A decimal in positional notation, without an exponent. -/
def Decimal.text (d : Decimal) : String :=
  let digits := (toString d.digits).toList
  if 0 ≤ d.exponent then String.ofList (digits ++ List.replicate d.exponent.toNat '0')
  else
    let places := (-d.exponent).toNat
    let whole := digits.length - places
    if whole = 0 then "0." ++ String.ofList (List.replicate (places - digits.length) '0' ++ digits)
    else String.ofList (digits.take whole) ++ "." ++ String.ofList (digits.drop whole)

/-- The text of a number: the shortest decimal in positional notation, whole values without a
point. -/
def text : Binary64 -> String
  | .nan => "NaN"
  | .infinity negative => if negative then "-inf" else "inf"
  | .finite negative quanta _ =>
    (if negative then "-" else "") ++ if quanta = 0 then "0" else (shortest quanta).text

end Binary64
end Chronometry
