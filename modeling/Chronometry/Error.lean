import Chronometry.Operator
import Chronometry.Value
import Chronometry.Zone.Rule

/-!
# Errors

What can go wrong, by cause.  The wording of every cause is in `Error.message` and the functions it
calls, except for calls on times: a call that is refused is kept in the error, and how a refusal is
worded is a parameter.
-/

namespace Chronometry

/-- What a text was meant to denote. -/
inductive TextTarget where
  | instant | duration
deriving DecidableEq, Repr

def TextTarget.noun : TextTarget -> String
  | .instant => "date"
  | .duration => "duration"

/-- Why a value could not be made into what was asked for. -/
inductive CoercionFault where
  | dimensionsDiffer (source target : Measure)
  | notTime (unit : Measure)
  | magnitudeNotFinite (magnitude : Binary64)
  | countOverflow
  | durationNotFinite (milliseconds : Binary64)
  | notInstant (value : Value)
  | notDuration (value : Value)
deriving DecidableEq

/-- The reason for a failed coercion in words. -/
def CoercionFault.reason : CoercionFault -> String
  | .dimensionsDiffer source target =>
    "cannot convert " ++ source.name ++ " (" ++ source.dimension.name ++ ") to " ++ target.name ++
      " (" ++ target.dimension.name ++ ")"
  | .notTime unit => unit.name ++ " is not a unit of time"
  | .magnitudeNotFinite magnitude => "magnitude " ++ magnitude.text ++ " is not finite"
  | .countOverflow => "nanosecond count overflows"
  | .durationNotFinite milliseconds => milliseconds.text ++ " milliseconds is not a finite duration"
  | .notInstant value => "cannot make an instant from " ++ value.description
  | .notDuration value => "cannot make a duration from " ++ value.description

/-- A call on times that is refused where it has no answer within the limits.  It carries all that
its answer, and the wording of its refusal, can depend on. -/
inductive TimeCall where
  /-- The instant with a count of nanoseconds. -/
  | instant (count : Int)
  /-- The instant a duration after another one. -/
  | later (i : Instant) (d : Duration)
  /-- The instant a duration before another one. -/
  | earlier (i : Instant) (d : Duration)
  /-- The duration between two instants. -/
  | elapsed (later earlier : Instant)
  /-- The duration with a count of milliseconds. -/
  | milliseconds (count : Int)
  /-- The length of a duration in milliseconds. -/
  | total (d : Duration)
  | sum (x y : Duration)
  | difference (x y : Duration)
  | comparison (x y : Duration)
  /-- A duration counted anew from a local datetime. -/
  | recount (d : Duration) (largest : Grain) (start : Civil.DateTime)
  /-- An instant written by a pattern, with what its zone says of it. -/
  | rendering (pattern : String) (i : Instant) (reading : Zone.Reading) (zone : Option String)
deriving DecidableEq

/-- Which range was left. -/
inductive RangeFault where
  | limits (call : TimeCall)
  | incomparable (x y : Binary64)
  | milliseconds (count : Binary64)
  | nanoseconds (count : Int)
deriving DecidableEq

/-- What lies out of range, in words. -/
def RangeFault.subject (wording : TimeCall -> String) : RangeFault -> String
  | .limits call => wording call
  | .incomparable x y => "cannot compare " ++ x.text ++ " with " ++ y.text
  | .milliseconds count => count.text ++ " milliseconds"
  | .nanoseconds count => toString count ++ " nanoseconds"

/-- A failure of an operation. -/
inductive Error where
  | unreadable (target : TextTarget) (text : String)
  | coercion (fault : CoercionFault)
  | unsupported (operator : Operator) (left right : Kind)
  | unconvertible (kind : Kind)
  | unknownOperator (name : String)
  | unknownUnit (name : String)
  | divisionByZero
  | outOfRange (fault : RangeFault)
deriving DecidableEq

namespace Error

/-- The text of an error, with a given wording of refused calls.  A conversion names the unit in
place of its second operand. -/
def message (wording : TimeCall -> String) : Error -> String
  | .unreadable target text => "Could not parse " ++ target.noun ++ ": \"" ++ text ++ "\""
  | .coercion fault => "Coercion failed: " ++ fault.reason
  | .unsupported operator left right =>
    "Unsupported operation: " ++ operator.name ++ "(" ++ left.name ++ ", " ++ right.name ++ ")"
  | .unconvertible kind =>
    "Unsupported operation: " ++ Operator.convert.name ++ "(" ++ kind.name ++ ", Unit)"
  | .unknownOperator name => "Unknown operator: " ++ name
  | .unknownUnit name => "Unknown unit: " ++ name
  | .divisionByZero => "Division by zero"
  | .outOfRange fault => "Value out of range: " ++ fault.subject wording

/-- The answer to a call on times, or its refusal. -/
def withinLimits (call : TimeCall) (answer : Option α) : Except Error α :=
  match answer with
  | some value => .ok value
  | none => .error (.outOfRange (.limits call))

theorem withinLimits_eq_ok_iff {call : TimeCall} {answer : Option α} {value : α} :
    withinLimits call answer = .ok value ↔ answer = some value := by
  cases answer <;> simp [withinLimits]

theorem eq_of_withinLimits_eq_error {call : TimeCall} {answer : Option α} {error : Error}
    (refused : withinLimits call answer = .error error) : error = .outOfRange (.limits call) := by
  cases answer with
  | none => exact (Except.error.inj refused).symm
  | some => contradiction

end Error

/-- The operator with a name. -/
def Operator.ofName (name : String) : Except Error Operator :=
  match ofName? name with
  | some operator => .ok operator
  | none => .error (.unknownOperator name)

/-- The unit with a name or an alias. -/
def Measure.ofName (name : String) : Except Error Measure :=
  match find? name with
  | some unit => .ok unit
  | none => .error (.unknownUnit name)

end Chronometry
