import Chronometry.Quantity.Basic
import Chronometry.Instant.Basic
import Chronometry.Duration.Text

/-!
# Values

The values of an evaluator are of five kinds.  `Value.same` is the equality of values: numbers are
equal by value, quantities by exact count where both have one, durations by length.
-/

namespace Chronometry

/-- The kind of a value. -/
inductive Kind where
  | number | boolean | quantity | instant | duration
deriving DecidableEq, Repr

namespace Kind

/-- The kinds in their order. -/
def all : List Kind :=
  [.number, .boolean, .quantity, .instant, .duration]

theorem mem_all (kind : Kind) : kind ∈ all := by
  cases kind <;> decide

/-- The place of a kind in the order of kinds. -/
def place (kind : Kind) : Nat :=
  all.idxOf kind

/-- The name of a kind, as errors give it. -/
def name : Kind -> String
  | .number => "Number"
  | .boolean => "Boolean"
  | .quantity => "Quantity"
  | .instant => "Instant"
  | .duration => "Duration"

end Kind

/-- A value of an evaluator. -/
inductive Value where
  | number (number : Binary64)
  | boolean (truth : Bool)
  | quantity (quantity : Quantity)
  | instant (instant : Instant)
  | duration (duration : Duration)
deriving DecidableEq

namespace Value

/-- The kind of a value. -/
def kind : Value -> Kind
  | .number _ => .number
  | .boolean _ => .boolean
  | .quantity _ => .quantity
  | .instant _ => .instant
  | .duration _ => .duration

/-- The equality of values.  Values of different kinds are different. -/
def same : Value -> Value -> Bool
  | .number x, .number y => x.sameValue y
  | .boolean x, .boolean y => x == y
  | .quantity x, .quantity y => x.same y
  | .instant x, .instant y => x == y
  | .duration x, .duration y => x.sameLength y
  | _, _ => false

/-- A value in words, as the object of a sentence. -/
def description : Value -> String
  | .number x => "the unitless number " ++ x.text
  | .boolean b => "the boolean " ++ toString b
  | .quantity q => "the quantity " ++ q.text
  | .instant i => "the instant " ++ i.text
  | .duration d => "the duration " ++ d.text

end Value
end Chronometry
