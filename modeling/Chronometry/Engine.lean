import Chronometry.Clock
import Chronometry.Coercion
import Chronometry.Display
import Chronometry.Registry.Basic

/-!
# The engine

What an evaluator calls: coercion to instants and durations, operators by name, conversion, and
display, all by one registry, one clock, one pair of text readers and one set of settings.
-/

namespace Chronometry

/-- The parts that the functions of an evaluator share. -/
structure Engine where
  registry : Registry
  clock : Clock
  dates : DateReader
  durations : DurationReader
  settings : Settings

namespace Engine

/-- The engine with the standard registry and the everyday readers, which know the zones of a
database. -/
def everyday (zones : Zone.Database) (clock : Clock) (settings : Settings) : Engine where
  registry := .standard
  clock := clock
  dates := .everyday zones
  durations := .everyday
  settings := settings

/-- The current instant. -/
def now (engine : Engine) : Instant :=
  engine.clock.now

/-- The current moment in the zone of the settings, to which relative dates refer. -/
def reference (engine : Engine) : Moment :=
  ⟨engine.now, engine.settings.zone⟩

/-- The instant that a source denotes. -/
def instant (engine : Engine) (source : Source) : Except Error Instant :=
  source.toInstant engine.dates engine.reference

/-- The duration that a source denotes. -/
def duration (engine : Engine) (source : Source) : Except Error Duration :=
  source.toDuration engine.durations

/-- An operator applied to two values. -/
def apply (engine : Engine) (operator : Operator) (a b : Value) : Except Error Value :=
  engine.registry.apply operator a b

/-- An operator applied to two values by its name.  A conversion has a unit where this has a second
value, and is not supported. -/
def applyNamed (engine : Engine) (name : String) (a b : Value) : Except Error Value := do
  let operator ← Operator.ofName name
  if operator = .convert then Arithmetic.unsupported operator a b else engine.apply operator a b

/-- A value in the unit with a name. -/
def convert (engine : Engine) (value : Value) (unit : String) : Except Error Value := do
  engine.registry.convert value (← Measure.ofName unit)

/-- A value as it is displayed. -/
def format (engine : Engine) (value : Value) : Except Error String :=
  Display.value value engine.settings engine.now

end Engine
end Chronometry
