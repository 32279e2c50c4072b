import Chronometry.Quantity.Conversion

/-!
# Plain arithmetic

What every operator does to numbers, truth values and quantities.  Quantities are combined in the
unit of the left operand, on their magnitudes alone, and the answer carries no exact count.  What
plain arithmetic cannot do is an unsupported operation.
-/

namespace Chronometry
namespace Arithmetic

/-- The number that stands for an order: minus one, zero or one. -/
def signOf : Ordering -> Binary64
  | .lt => -1
  | .eq => 0
  | .gt => 1

/-- The refusal of an operation on two values, which names their kinds. -/
def unsupported (operator : Operator) (a b : Value) : Except Error Value :=
  .error (.unsupported operator a.kind b.kind)

/-- The order of two numbers; there is none with what is not a number. -/
def orderNumbers (x y : Binary64) : Except Error Ordering :=
  match x.order? y with
  | some order => .ok order
  | none => .error (.outOfRange (.incomparable x y))

/-- The order of two quantities of one dimension, by magnitude in the unit of the left one. -/
def orderQuantities (x y : Quantity) : Except Error Ordering := do
  orderNumbers x.value (← y.magnitudeIn x.unit)

/-- A number to divide by, which must not be zero. -/
def divisor (x : Binary64) : Except Error Binary64 :=
  if x.isZero then .error .divisionByZero else .ok x

/-- An operator on two numbers. -/
def onNumbers (operator : Operator) (x y : Binary64) : Except Error Value :=
  match operator with
  | .add => .ok (.number (x + y))
  | .subtract => .ok (.number (x - y))
  | .multiply => .ok (.number (x * y))
  | .divide => (fun z => .number (x / z)) <$> divisor y
  | .compare => (fun order => .number (signOf order)) <$> orderNumbers x y
  | .relation question => (fun order => .boolean (question.holds order)) <$> orderNumbers x y
  | .convert => unsupported .convert (.number x) (.number y)

/-- An operator on two quantities. -/
def onQuantities (operator : Operator) (x y : Quantity) : Except Error Value :=
  match operator with
  | .add => (fun z => .quantity (.plain (x.value + z) x.unit)) <$> y.magnitudeIn x.unit
  | .subtract => (fun z => .quantity (.plain (x.value - z) x.unit)) <$> y.magnitudeIn x.unit
  | .divide => do
    let z ← divisor (← y.magnitudeIn x.unit)
    return .number (x.value / z)
  | .compare => (fun order => .number (signOf order)) <$> orderQuantities x y
  | .relation question => (fun order => .boolean (question.holds order)) <$> orderQuantities x y
  | .multiply | .convert => unsupported operator (.quantity x) (.quantity y)

/-- An operator on two truth values, which can be equal or not. -/
def onBooleans (operator : Operator) (x y : Bool) : Except Error Value :=
  match operator with
  | .relation .equal => .ok (.boolean (x == y))
  | .relation .unequal => .ok (.boolean (x != y))
  | _ => unsupported operator (.boolean x) (.boolean y)

/-- An operator on a quantity and a number, which can scale it. -/
def onQuantityNumber (operator : Operator) (x : Quantity) (k : Binary64) : Except Error Value :=
  match operator with
  | .multiply => .ok (.quantity (.plain (x.value * k) x.unit))
  | .divide => (fun z => .quantity (.plain (x.value / z) x.unit)) <$> divisor k
  | _ => unsupported operator (.quantity x) (.number k)

/-- An operator on a number and a quantity. -/
def onNumberQuantity (operator : Operator) (k : Binary64) (x : Quantity) : Except Error Value :=
  match operator with
  | .multiply => .ok (.quantity (.plain (x.value * k) x.unit))
  | _ => unsupported operator (.number k) (.quantity x)

/-- An operator applied to two values by plain arithmetic. -/
def applyPlain (operator : Operator) (a b : Value) : Except Error Value :=
  match a, b with
  | .number x, .number y => onNumbers operator x y
  | .quantity x, .quantity y => onQuantities operator x y
  | .quantity x, .number k => onQuantityNumber operator x k
  | .number k, .quantity x => onNumberQuantity operator k x
  | .boolean x, .boolean y => onBooleans operator x y
  | a, b => unsupported operator a b

/-- The conversion of a value by plain arithmetic, which knows quantities alone. -/
def convertPlain (value : Value) (unit : Measure) : Except Error Value :=
  match value with
  | .quantity q => .quantity <$> q.convert unit
  | other => .error (.unconvertible other.kind)

end Arithmetic
end Chronometry
