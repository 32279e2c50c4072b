import Chronometry.Engine

/-!
# Sessions

A session is a row of requests to one engine with a manual clock.  A request reads the engine, may
change it, and may fail; a session goes on after a failure with the engine as the failed request
left it.
-/

namespace Chronometry

/-- What an engine and its clock are asked for. -/
inductive Request where
  | set (instant : Instant)
  | advance (step : Duration)
  | now
  | instant (source : Source)
  | duration (source : Source)
  | apply (operator : Operator) (a b : Value)
  | applyNamed (name : String) (a b : Value)
  | convert (value : Value) (unit : String)
  | format (value : Value)

/-- What a request is answered with. -/
inductive Answer where
  | done
  | value (value : Value)
  | text (text : String)
deriving DecidableEq

/-- A computation on an engine that may fail.  What is changed before a failure stays changed. -/
abbrev OnEngine (α : Type) := ExceptT Error (StateM Engine) α

namespace OnEngine

/-- The clock replaced by another one. -/
def replaceClock (clock : Clock) : OnEngine Unit :=
  modify fun engine => { engine with clock := clock }

/-- The clock put to an instant. -/
def set (instant : Instant) : OnEngine Unit := do
  replaceClock ((← get).clock.set instant)

/-- The clock moved by a duration, and the instant that it then shows. -/
def advance (step : Duration) : OnEngine Instant := do
  let moved ← MonadExcept.ofExcept ((← get).clock.advance step)
  replaceClock moved
  return moved.now

/-- A question to the engine, which is not changed by it. -/
def ask (question : Engine -> Except Error α) : OnEngine α := do
  MonadExcept.ofExcept (question (← get))

end OnEngine

/-- The computation that answers a request. -/
def Request.answer : Request -> OnEngine Answer
  | .set i => do
    OnEngine.set i
    return .done
  | .advance step => return .value (.instant (← OnEngine.advance step))
  | .now => .ask fun engine => return .value (.instant engine.now)
  | .instant source => .ask fun engine => return .value (.instant (← engine.instant source))
  | .duration source => .ask fun engine => return .value (.duration (← engine.duration source))
  | .apply operator a b => .ask fun engine => return .value (← engine.apply operator a b)
  | .applyNamed name a b => .ask fun engine => return .value (← engine.applyNamed name a b)
  | .convert value unit => .ask fun engine => return .value (← engine.convert value unit)
  | .format value => .ask fun engine => return .text (← engine.format value)

/-- The outcome of a request, and the engine that it leaves. -/
def Engine.step (engine : Engine) (request : Request) : Except Error Answer × Engine :=
  request.answer.run.run engine

/-- A request of a session and its outcome. -/
structure Entry where
  request : Request
  outcome : Except Error Answer

/-- An engine and what has been asked of it, the oldest request first. -/
structure Session where
  engine : Engine
  history : List Entry

namespace Session

/-- The session after one more request. -/
def answer (session : Session) (request : Request) : Session :=
  let (outcome, engine) := session.engine.step request
  ⟨engine, session.history ++ [⟨request, outcome⟩]⟩

/-- The session of some requests to an engine. -/
def run (engine : Engine) (requests : List Request) : Session :=
  requests.foldl answer ⟨engine, []⟩

end Session
end Chronometry
