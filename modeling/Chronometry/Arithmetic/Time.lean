import Chronometry.Arithmetic.Plain
import Chronometry.Duration.Conversion
import Chronometry.Instant.Arithmetic

/-!
# Arithmetic of instants and durations

One implementation for each operation on instants and durations.  An implementation expects operands
of certain kinds and refuses others.  Durations are scaled and divided through their total of
milliseconds.  Every relation is asked of the same order that a comparison answers with.
-/

namespace Chronometry
namespace Arithmetic

open Error (withinLimits)

/-- Instant plus duration. -/
def addInstantDuration : Value -> Value -> Except Error Value
  | .instant i, .duration d => withinLimits (.later i d) (.instant <$> i.add? d)
  | a, b => unsupported .add a b

/-- Duration plus instant, which is computed with the operands exchanged. -/
def addDurationInstant (a b : Value) : Except Error Value :=
  addInstantDuration b a

/-- Duration plus duration. -/
def addDurations : Value -> Value -> Except Error Value
  | .duration x, .duration y => withinLimits (.sum x y) (.duration <$> x.add? y)
  | a, b => unsupported .add a b

/-- Instant minus instant. -/
def subtractInstants : Value -> Value -> Except Error Value
  | .instant x, .instant y => withinLimits (.elapsed x y) (.duration <$> x.since? y)
  | a, b => unsupported .subtract a b

/-- Instant minus duration. -/
def subtractInstantDuration : Value -> Value -> Except Error Value
  | .instant i, .duration d => withinLimits (.earlier i d) (.instant <$> i.sub? d)
  | a, b => unsupported .subtract a b

/-- Duration minus duration. -/
def subtractDurations : Value -> Value -> Except Error Value
  | .duration x, .duration y => withinLimits (.difference x y) (.duration <$> x.sub? y)
  | a, b => unsupported .subtract a b

/-- Duration times number. -/
def multiplyDurationNumber : Value -> Value -> Except Error Value
  | .duration d, .number k => do
    let total ← d.totalMilliseconds
    .duration <$> Duration.ofMilliseconds (total * k)
  | a, b => unsupported .multiply a b

/-- Number times duration, which is computed with the operands exchanged. -/
def multiplyNumberDuration (a b : Value) : Except Error Value :=
  multiplyDurationNumber b a

/-- Duration divided by number. -/
def divideDurationNumber : Value -> Value -> Except Error Value
  | .duration d, .number k => do
    let k ← divisor k
    let total ← d.totalMilliseconds
    .duration <$> Duration.ofMilliseconds (total / k)
  | a, b => unsupported .divide a b

/-- Duration divided by duration.  The divisor is looked at first. -/
def divideDurations : Value -> Value -> Except Error Value
  | .duration x, .duration y => do
    let total ← y.totalMilliseconds
    let below ← divisor total
    let above ← x.totalMilliseconds
    return .number (above / below)
  | a, b => unsupported .divide a b

/-- The order of two instants or of two durations, for the operator that asks. -/
def orderTimes (operator : Operator) (a b : Value) : Except Error Ordering :=
  match a, b with
  | .instant x, .instant y => .ok (x.order y)
  | .duration x, .duration y => withinLimits (.comparison x y) (x.order? y)
  | a, b => .error (.unsupported operator a.kind b.kind)

/-- The comparison of two instants or of two durations. -/
def compareTimes (a b : Value) : Except Error Value :=
  (fun order => .number (signOf order)) <$> orderTimes .compare a b

/-- A relation of two instants or of two durations. -/
def relateTimes (question : Relation) (a b : Value) : Except Error Value :=
  (fun order => .boolean (question.holds order)) <$> orderTimes (.relation question) a b

/-- An instant in a unit of time, through its exact count of nanoseconds. -/
def convertInstant (value : Value) (unit : Measure) : Except Error Value :=
  match value with
  | .instant i => .quantity <$> Quantity.ofNanoseconds i.nanoseconds unit
  | other => .error (.unconvertible other.kind)

/-- A duration in a unit of time, through its total of milliseconds. -/
def convertDuration (value : Value) (unit : Measure) : Except Error Value :=
  match value with
  | .duration d => do
    let total ← d.totalMilliseconds
    .quantity <$> (Quantity.plain total .millisecond).convert unit
  | other => .error (.unconvertible other.kind)

end Arithmetic
end Chronometry
