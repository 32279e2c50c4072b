import Chronometry.Registry.FirstWins
import Chronometry.Value

/-!
# Registered kinds

Dispatch asks what a value is through tests that are registered for kinds.  A kind that was never
registered is invisible to it, and the kind of a value is the first registered one whose test
accepts the value.
-/

namespace Chronometry

/-- The question whether a value belongs to a kind. -/
abbrev Test := Value -> Bool

/-- The test that accepts exactly the values of a kind. -/
def Kind.test (kind : Kind) : Test :=
  fun value => value.kind == kind

/-- Kinds with their tests, in the order of registration. -/
abbrev KindTable := FirstWins Kind Test

namespace KindTable

/-- A kind registered with its test, and whether it was new. -/
def register (table : KindTable) (kind : Kind) (test : Test) : KindTable × Bool :=
  (table.insert kind test, !table.contains kind)

/-- The question whether a value belongs to a kind; false for a kind that is not registered. -/
def accepts (table : KindTable) (kind : Kind) (value : Value) : Bool :=
  match table.get? kind with
  | some test => test value
  | none => false

/-- The first registered kind that a value belongs to. -/
def kindOf? (table : KindTable) (value : Value) : Option Kind :=
  (table.entries.find? fun entry => entry.2 value).map Prod.fst

/-- The registered kinds as a list in brackets. -/
def text (table : KindTable) : String :=
  "[" ++ ", ".intercalate (table.keys.map Kind.name) ++ "]"

end KindTable

/-- The kinds that an evaluator knows without instants and durations. -/
def Kind.plainKinds : List Kind := [.number, .boolean, .quantity]

/-- The kinds of time. -/
def Kind.timeKinds : List Kind := [.instant, .duration]

end Chronometry
