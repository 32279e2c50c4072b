import Chronometry.Registry.Types
import Chronometry.Arithmetic.Time

/-!
# The registry of operators

A registry resolves an operator and the kinds of its operands to an implementation.  It is the
outcome of a log of registrations in which the first one for a key wins.  Where nothing is
registered, plain arithmetic gets the call.
-/

namespace Chronometry

/-- What an operator does to two values. -/
abbrev Implementation := Value -> Value -> Except Error Value

/-- What a conversion to a unit does to a value. -/
abbrev Conversion := Value -> Measure -> Except Error Value

/-- An operator with the kinds of its operands. -/
structure Signature where
  operator : Operator
  left : Kind
  right : Kind
deriving DecidableEq

/-- One entry of a log of registrations. -/
inductive Registration where
  | kind (kind : Kind) (test : Test)
  | signature (signature : Signature) (implementation : Implementation)
  | conversion (kind : Kind) (conversion : Conversion)

/-- The kinds, signatures and conversions that dispatch goes by. -/
structure Registry where
  kinds : KindTable
  signatures : FirstWins Signature Implementation
  conversions : FirstWins Kind Conversion

/-- The question whether a kind stands before another one or is the same. -/
def Kind.notBehind (kind other : Kind) : Bool :=
  kind.place ≤ other.place

/-- The question whether a pair of kinds stands before another one or is the same: by the left kind,
and then by the right one. -/
def Kind.pairNotBehind (pair other : Kind × Kind) : Bool :=
  pair.1.place < other.1.place ∨ pair.1 = other.1 ∧ pair.2.place ≤ other.2.place

namespace Registry

def empty : Registry := ⟨.empty, .empty, .empty⟩

/-- A registry after one more registration. -/
def record (registry : Registry) : Registration -> Registry
  | .kind kind test => { registry with kinds := registry.kinds.insert kind test }
  | .signature signature implementation =>
    { registry with signatures := registry.signatures.insert signature implementation }
  | .conversion kind conversion =>
      { registry with conversions := registry.conversions.insert kind conversion }

/-- The registry that a log of registrations builds. -/
def ofLog (log : List Registration) : Registry :=
  log.foldl record empty

/-- The registration of the kinds without instants and durations. -/
def plainKinds : List Registration :=
  Kind.plainKinds.map fun kind => .kind kind kind.test

/-- The registration of the kinds of time. -/
def timeKinds : List Registration :=
  Kind.timeKinds.map fun kind => .kind kind kind.test

/-- The operations on instants and durations that are not questions of order. -/
def timeCatalogue : List (Signature × Implementation) :=
  [(⟨.add, .instant, .duration⟩, Arithmetic.addInstantDuration),
    (⟨.add, .duration, .instant⟩, Arithmetic.addDurationInstant),
    (⟨.add, .duration, .duration⟩, Arithmetic.addDurations),
    (⟨.subtract, .instant, .instant⟩, Arithmetic.subtractInstants),
    (⟨.subtract, .instant, .duration⟩, Arithmetic.subtractInstantDuration),
    (⟨.subtract, .duration, .duration⟩, Arithmetic.subtractDurations),
    (⟨.multiply, .duration, .number⟩, Arithmetic.multiplyDurationNumber),
    (⟨.multiply, .number, .duration⟩, Arithmetic.multiplyNumberDuration),
    (⟨.divide, .duration, .number⟩, Arithmetic.divideDurationNumber),
    (⟨.divide, .duration, .duration⟩, Arithmetic.divideDurations)]

/-- The questions of order between two values of one kind of time. -/
def orderCatalogue (kind : Kind) : List (Signature × Implementation) :=
  (⟨.compare, kind, kind⟩, Arithmetic.compareTimes) ::
    Relation.all.map fun question =>
      (⟨.relation question, kind, kind⟩, Arithmetic.relateTimes question)

/-- The registration of every operation and conversion of instants and durations. -/
def timeOperators : List Registration :=
  (timeCatalogue ++ Kind.timeKinds.flatMap orderCatalogue).map
      (fun entry => .signature entry.1 entry.2) ++
    [.conversion .instant Arithmetic.convertInstant,
      .conversion .duration Arithmetic.convertDuration]

/-- The registry with every kind and the full catalogue of operations on time. -/
def standard : Registry :=
  ofLog (plainKinds ++ timeKinds ++ timeOperators)

/-- The implementation registered for exactly these kinds of operands. -/
def resolve? (registry : Registry) (operator : Operator) (left right : Kind) :
    Option Implementation :=
  registry.signatures.get? ⟨operator, left, right⟩

/-- The implementation that dispatch finds for two values. -/
def implementation? (registry : Registry) (operator : Operator) (a b : Value) :
    Option Implementation :=
  match registry.kinds.kindOf? a, registry.kinds.kindOf? b with
  | some left, some right => registry.resolve? operator left right
  | _, _ => none

/-- An operator applied to two values: by the registered implementation, else by plain
arithmetic. -/
def apply (registry : Registry) (operator : Operator) (a b : Value) : Except Error Value :=
  match registry.implementation? operator a b with
  | some implementation => implementation a b
  | none => Arithmetic.applyPlain operator a b

/-- The conversion that dispatch finds for a value. -/
def conversion? (registry : Registry) (value : Value) : Option Conversion :=
  match registry.kinds.kindOf? value with
  | some kind => registry.conversions.get? kind
  | none => none

/-- The conversion of a value to a unit: by the registered conversion, else by plain arithmetic. -/
def convert (registry : Registry) (value : Value) (unit : Measure) : Except Error Value :=
  match registry.conversion? value with
  | some conversion => conversion value unit
  | none => Arithmetic.convertPlain value unit

/-- The pairs of kinds registered for an operator, each once and in order.  Conversions have no
pairs. -/
def pairs (registry : Registry) (operator : Operator) : List (Kind × Kind) :=
  if operator = .convert then []
  else
    (registry.signatures.keys.filter fun key => key.operator = operator).map
      (fun key => (key.left, key.right)) |>.eraseDups |>.mergeSort Kind.pairNotBehind

/-- The kinds with a registered conversion, in order. -/
def convertible (registry : Registry) : List Kind :=
  registry.conversions.keys.mergeSort Kind.notBehind

/-- A registry in outline: its kinds, the number of its signatures and its conversions. -/
def text (registry : Registry) : String :=
  "OperatorRegistry \x7b types: " ++ registry.kinds.text ++ ", signatures: " ++
    toString registry.signatures.size ++ ", conversions: [" ++
    ", ".intercalate (registry.convertible.map Kind.name) ++ "] \x7d"

end Registry
end Chronometry
