import Chronometry.Binary64.Rounding

/-!
# Binary64 numbers

A number is not a number, an infinity, or a sign with a representable count of quanta.  Zero has
both signs.  Every operation computes the exact result and rounds it once, to the nearest neighbour
and on a tie to the even one.

`order?` compares by numerical value: both zeros are one value, and nothing compares with what is
not a number.  Structural equality tells the zeros apart.
-/

namespace Chronometry

/-- A number in the binary64 format. -/
inductive Binary64 where
  | nan
  | infinity (negative : Bool)
  | finite (negative : Bool) (quanta : Nat) (representable : Binary64.Representable quanta)
deriving DecidableEq

namespace Binary64

/-- A zero with the given sign. -/
def zero (negative : Bool) : Binary64 :=
  .finite negative 0 representable_zero

/-- The binary64 number nearest to `numerator / denominator` quanta, with the given sign. -/
def round (negative : Bool) (numerator denominator : Nat) : Binary64 :=
  if inRange : roundQuanta numerator denominator < quantaLimit then
    .finite negative (roundQuanta numerator denominator) ⟨dvd_roundQuanta _ _, inRange⟩
  else .infinity negative

/-- The binary64 number nearest to a whole number. -/
def ofInt (value : Int) : Binary64 :=
  round (value < 0) (value.natAbs * quantaPerOne) 1

instance (n : Nat) : OfNat Binary64 n := ⟨ofInt n⟩

/-- The number of quanta with its sign. -/
def signed (negative : Bool) (quanta : Nat) : Int :=
  if negative then -quanta else quanta

/-- Finite numbers have a sign and a magnitude; this is the question whether a number is one. -/
def isFinite : Binary64 -> Bool
  | .finite .. => true
  | _ => false

/-- The opposite number; it differs from the number in the sign alone. -/
def neg : Binary64 -> Binary64
  | .nan => .nan
  | .infinity negative => .infinity (!negative)
  | .finite negative quanta representable => .finite (!negative) quanta representable

/-- The sum.  An exact sum of zero is positive unless both terms are negative zeros. -/
def add : Binary64 -> Binary64 -> Binary64
  | .nan, _ => .nan
  | _, .nan => .nan
  | .infinity left, .infinity right => if left = right then .infinity left else .nan
  | .infinity left, .finite .. => .infinity left
  | .finite .., .infinity right => .infinity right
  | .finite left m _, .finite right n _ =>
    let sum := signed left m + signed right n
    if sum = 0 then zero (left && right) else round (sum < 0) sum.natAbs 1

/-- The difference is the sum with the opposite. -/
def sub (x y : Binary64) : Binary64 :=
  add x (neg y)

/-- The product.  An infinity times a zero is not a number. -/
def mul : Binary64 -> Binary64 -> Binary64
  | .nan, _ => .nan
  | _, .nan => .nan
  | .infinity left, .infinity right => .infinity (left != right)
  | .infinity left, .finite right n _ => if n = 0 then .nan else .infinity (left != right)
  | .finite left m _, .infinity right => if m = 0 then .nan else .infinity (left != right)
  | .finite left m _, .finite right n _ => round (left != right) (m * n) quantaPerOne

/-- The quotient.  A zero by a zero and an infinity by an infinity are not numbers. -/
def div : Binary64 -> Binary64 -> Binary64
  | .nan, _ => .nan
  | _, .nan => .nan
  | .infinity _, .infinity _ => .nan
  | .infinity left, .finite right _ _ => .infinity (left != right)
  | .finite left _ _, .infinity right => zero (left != right)
  | .finite left m _, .finite right n _ =>
    if n = 0 then if m = 0 then .nan else .infinity (left != right)
    else round (left != right) (m * quantaPerOne) n

instance : Neg Binary64 := ⟨neg⟩
instance : Add Binary64 := ⟨add⟩
instance : Sub Binary64 := ⟨sub⟩
instance : Mul Binary64 := ⟨mul⟩
instance : Div Binary64 := ⟨div⟩

/-- The position of a number on the line of quanta, the infinities standing at the two limits. -/
def position? : Binary64 -> Option Int
  | .nan => none
  | .infinity negative => some (signed negative quantaLimit)
  | .finite negative quanta _ => some (signed negative quanta)

/-- The order of two numbers by value, if both are numbers. -/
def order? (x y : Binary64) : Option Ordering :=
  match x.position?, y.position? with
  | some p, some q => some (compare p q)
  | _, _ => none

/-- Equality by value: zeros of either sign are equal, and what is not a number equals nothing. -/
def sameValue (x y : Binary64) : Bool :=
  x.order? y == some .eq

/-- The question whether a number is a zero of either sign. -/
def isZero : Binary64 -> Bool
  | .finite _ quanta _ => quanta == 0
  | _ => false

/-- The whole part of a finite number: the fraction is dropped, toward zero. -/
def truncated? : Binary64 -> Option Int
  | .finite negative quanta _ => some (signed negative (quanta / quantaPerOne))
  | _ => none

/-- The whole number nearest to a finite number; a half goes away from zero. -/
def nearest? : Binary64 -> Option Int
  | .finite negative quanta _ =>
      some (signed negative ((2 * quanta + quantaPerOne) / (2 * quantaPerOne)))
  | _ => none

/-- The value of a finite number that has no fraction. -/
def whole? : Binary64 -> Option Int
  | .finite negative quanta _ =>
    if quanta % quantaPerOne = 0 then some (signed negative (quanta / quantaPerOne)) else none
  | _ => none

/-- The interchange encoding: the sign, eleven bits of exponent and 52 bits of significand.  The
bits of every finite magnitude are its significand plus `2 ^ 52` for each place that the significand
is shifted. -/
def toBits : Binary64 -> UInt64
  | .nan => 0x7ff8000000000000
  | .infinity negative => (if negative then 0x8000000000000000 else 0) + 0x7ff0000000000000
  | .finite negative quanta _ =>
    let shift := roundingShift quanta
    (if negative then 0x8000000000000000 else 0) +
      (shift * Nat.pow 2 52 + quanta / Nat.pow 2 shift).toUInt64

end Binary64
end Chronometry
