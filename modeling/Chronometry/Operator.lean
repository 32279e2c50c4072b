/-!
# Operators

The operators that an evaluator resolves by name.  A relation is an operator of its own kind: it
asks a question about the order of its operands, and `Relation.holds` answers it from that order
alone.
-/

namespace Chronometry

/-- A question about the order of two operands. -/
inductive Relation where
  | larger | largerEq | smaller | smallerEq | equal | unequal
deriving DecidableEq, Repr

namespace Relation

def all : List Relation :=
  [.larger, .largerEq, .smaller, .smallerEq, .equal, .unequal]

/-- The name by which an evaluator knows the relation. -/
def name : Relation -> String
  | .larger => "larger"
  | .largerEq => "largerEq"
  | .smaller => "smaller"
  | .smallerEq => "smallerEq"
  | .equal => "equal"
  | .unequal => "unequal"

/-- The question whether operands in the given order stand in the relation. -/
def holds (relation : Relation) (order : Ordering) : Bool :=
  match relation with
  | .larger => order == .gt
  | .largerEq => order != .lt
  | .smaller => order == .lt
  | .smallerEq => order != .gt
  | .equal => order == .eq
  | .unequal => order != .eq

end Relation

/-- An operator of two operands.  The second operand of a conversion is the unit to convert to. -/
inductive Operator where
  | add | subtract | multiply | divide | compare
  | relation (question : Relation)
  | convert
deriving DecidableEq, Repr

namespace Operator

/-- Every operator, in the order of the catalogue. -/
def all : List Operator :=
  [.add, .subtract, .multiply, .divide, .compare] ++ Relation.all.map .relation ++ [.convert]

/-- The name by which an evaluator knows the operator. -/
def name : Operator -> String
  | .add => "add"
  | .subtract => "subtract"
  | .multiply => "multiply"
  | .divide => "divide"
  | .compare => "compare"
  | .relation question => question.name
  | .convert => "to"

/-- The operator with a name. -/
def ofName? (name : String) : Option Operator :=
  all.find? fun operator => operator.name == name

/-- The question whether an operator is a relation. -/
def isRelation : Operator -> Bool
  | .relation _ => true
  | _ => false

/-- The answer of a relation for operands in the given order; other operators give none. -/
def holds? (operator : Operator) (order : Ordering) : Option Bool :=
  match operator with
  | .relation question => some (question.holds order)
  | _ => none

theorem mem_all (operator : Operator) : operator ∈ all := by
  rcases operator with _ | _ | _ | _ | _ | question | _
  case relation => cases question <;> decide
  all_goals decide

/-- Names are distinct, so that every operator is found by its own. -/
theorem ofName?_name (operator : Operator) : ofName? operator.name = some operator := by
  have every : ∀ operator ∈ all, ofName? operator.name = some operator := by decide +kernel
  exact every operator (mem_all operator)

end Operator
end Chronometry
