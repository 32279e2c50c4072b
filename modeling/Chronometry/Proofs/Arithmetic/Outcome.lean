import Chronometry.Arithmetic.Plain
import Chronometry.Duration.Conversion

/-!
# Outcomes of operations

An operation refuses operands of the wrong kinds.  Everything else that can go wrong has to do with
what the operands are, and not with their kinds: a limit is left, a divisor is zero, dimensions
differ.  An operation that accepts its operands never refuses later on, whatever it computes with
them, because none of the functions that it calls knows how to refuse.  This is said here once for
every function, together with the one fact about values that is wanted at the same places: a
quantity that comes out of an operation carries no exact count.
-/

namespace Chronometry

/-- What a refusal names: the operator, and what stands in the places of its operands. -/
def Error.refusal? : Error -> Option (Operator × String × String)
  | .unsupported operator left right => some (operator, left.name, right.name)
  | .unconvertible kind => some (.convert, kind.name, "Unit")
  | _ => none

/-- An outcome that is a refusal. -/
def Refuses {α : Type} (outcome : Except Error α) (refusal : Operator × String × String) :
    Prop :=
  ∃ error, outcome = .error error ∧ error.refusal? = some refusal

/-- An outcome that is a value with a property, or an error that is no refusal. -/
def Handled {α : Type} (property : α -> Prop) : Except Error α -> Prop
  | .ok value => property value
  | .error error => error.refusal? = none

namespace Handled

variable {α β : Type} {property : α -> Prop} {wanted : β -> Prop} {outcome : Except Error α}

theorem map {f : α -> β} (handled : Handled property outcome)
    (every : ∀ value, property value -> wanted (f value)) :
    Handled wanted (f <$> outcome) := by
  cases outcome with
  | ok value => exact every value handled
  | error error => exact handled

theorem bind {next : α -> Except Error β} (handled : Handled property outcome)
    (every : ∀ value, property value -> Handled wanted (next value)) :
    Handled wanted (outcome >>= next) := by
  cases outcome with
  | ok value => exact every value handled
  | error error => exact handled

theorem of_ok {value : α} (handled : Handled property outcome) (ok : outcome = .ok value) :
    property value := by
  rw [ok] at handled
  exact handled

theorem not_refuses (handled : Handled property outcome) (refusal : Operator × String × String) :
    ¬Refuses outcome refusal := by
  rintro ⟨error, rfl, refused⟩
  exact Option.some_ne_none refusal (refused.symm.trans handled)

end Handled

/-- An outcome that is a value with a property, or any error. -/
def Yields {α : Type} (property : α -> Prop) (outcome : Except Error α) : Prop :=
  ∀ value, outcome = .ok value -> property value

namespace Yields

variable {α β : Type} {property : α -> Prop} {wanted : β -> Prop} {outcome : Except Error α}

theorem map {f : α -> β} (yields : Yields property outcome)
    (every : ∀ value, property value -> wanted (f value)) :
    Yields wanted (f <$> outcome) := by
  intro answer answered
  cases outcome with
  | ok value =>
      cases answered
      exact every value (yields value rfl)
  | error error => contradiction

theorem bind {next : α -> Except Error β} (yields : Yields property outcome)
    (every : ∀ value, property value -> Yields wanted (next value)) :
    Yields wanted (outcome >>= next) := by
  cases outcome with
  | ok value => exact every value (yields value rfl)
  | error error =>
      intro answer answered
      contradiction

theorem of_ok {value : α} (holds : property value) : Yields property (.ok value) := by
  intro other ok
  exact Except.ok.inj ok ▸ holds

/-- An error yields nothing. -/
theorem of_error (error : Error) : Yields property (.error error) := by
  intro value ok
  contradiction

theorem weaken {weaker : α -> Prop} (yields : Yields property outcome)
    (every : ∀ value, property value -> weaker value) : Yields weaker outcome := by
  intro value ok
  exact every value (yields value ok)

end Yields

theorem Handled.yields {α : Type} {property : α -> Prop} {outcome : Except Error α}
    (handled : Handled property outcome) : Yields property outcome := by
  intro value ok
  exact handled.of_ok ok

/-- Any value at all, or an error that is no refusal. -/
abbrev Accepts {α : Type} (outcome : Except Error α) : Prop :=
  Handled (fun _ => True) outcome

/-- A value that is no quantity, or a quantity without an exact count. -/
def Value.Countless : Value -> Prop
  | .quantity q => q.exactNanoseconds = none
  | _ => True

theorem accepts_withinLimits {α : Type} (call : TimeCall) (answer : Option α) :
    Accepts (Error.withinLimits call answer) := by
  cases answer with
  | none => exact rfl
  | some value => exact trivial

/-! ## Quantities and durations -/

namespace Quantity

theorem accepts_magnitudeIn (q : Quantity) (target : Measure) : Accepts (q.magnitudeIn target) := by
  unfold magnitudeIn
  split
  · exact rfl
  · split
    · exact trivial
    · exact trivial

theorem accepts_ofNanoseconds (count : Int) (target : Measure) :
    Accepts (ofNanoseconds count target) := by
  unfold ofNanoseconds
  cases target.nanoseconds? with
  | none => exact rfl
  | some size => exact trivial

theorem accepts_convert (q : Quantity) (target : Measure) : Accepts (q.convert target) := by
  have plainly : Accepts ((plain · target) <$> q.magnitudeIn target) :=
    (accepts_magnitudeIn q target).map fun _ _ => trivial
  unfold convert
  cases q.exactNanoseconds with
  | none => exact plainly
  | some count =>
      by_cases time : target.isTime = true
      · simp only [time, if_true]
        exact accepts_ofNanoseconds count target
      · simp only [time]
        exact plainly

end Quantity

namespace Duration

theorem accepts_totalMilliseconds (d : Duration) : Accepts d.totalMilliseconds := by
  unfold totalMilliseconds
  split
  · exact rfl
  · exact trivial

theorem accepts_ofNanoseconds (count : Int) : Accepts (ofNanoseconds count) := by
  unfold ofNanoseconds
  simp only []
  split
  · exact accepts_withinLimits _ _
  · exact rfl

theorem accepts_ofMilliseconds (milliseconds : Binary64) :
    Accepts (ofMilliseconds milliseconds) := by
  unfold ofMilliseconds
  split
  · exact rfl
  · split
    · split
      · exact accepts_ofNanoseconds _
      · exact rfl
    · exact rfl

end Duration

/-! ## Plain arithmetic -/

namespace Arithmetic

theorem accepts_orderNumbers (x y : Binary64) : Accepts (orderNumbers x y) := by
  unfold orderNumbers
  cases x.order? y with
  | none => exact rfl
  | some order => exact trivial

theorem accepts_orderQuantities (x y : Quantity) : Accepts (orderQuantities x y) :=
  (y.accepts_magnitudeIn x.unit).bind fun z _ => accepts_orderNumbers x.value z

theorem accepts_divisor (x : Binary64) : Accepts (divisor x) := by
  unfold divisor
  split
  · exact rfl
  · exact trivial

/-- The kinds of operands that plain arithmetic accepts. -/
def plainPairs : Operator -> List (Kind × Kind)
  | .add | .subtract => [(.number, .number), (.quantity, .quantity)]
  | .multiply => [(.number, .number), (.quantity, .number), (.number, .quantity)]
  | .divide => [(.number, .number), (.quantity, .number), (.quantity, .quantity)]
  | .compare => [(.number, .number), (.quantity, .quantity)]
  | .relation .equal | .relation .unequal =>
      [(.number, .number), (.quantity, .quantity), (.boolean, .boolean)]
  | .relation _ => [(.number, .number), (.quantity, .quantity)]
  | .convert => []

/-- Operands of the kinds that plain arithmetic accepts are handled, and all others are refused. -/
structure Settled (operator : Operator) (left right : Kind) (outcome : Except Error Value) :
  Prop where
  handled : (left, right) ∈ plainPairs operator -> Handled Value.Countless outcome
  refused : (left, right) ∉ plainPairs operator ->
    outcome = .error (.unsupported operator left right)

theorem Settled.of_handled {operator : Operator} {left right : Kind} {outcome : Except Error Value}
    (listed : (left, right) ∈ plainPairs operator) (handled : Handled Value.Countless outcome) :
    Settled operator left right outcome :=
  ⟨fun _ => handled, fun absent => absurd listed absent⟩

theorem Settled.of_refused {operator : Operator} {left right : Kind}
    (absent : (left, right) ∉ plainPairs operator) :
    Settled operator left right (.error (.unsupported operator left right)) :=
  ⟨fun listed => absurd listed absent, fun _ => rfl⟩

theorem onNumbers_settled (operator : Operator) (x y : Binary64) :
    Settled operator .number .number (onNumbers operator x y) := by
  cases operator with
  | add | subtract | multiply => exact .of_handled (by decide) trivial
  | divide => exact .of_handled (by decide) ((accepts_divisor y).map fun _ _ => trivial)
  | compare => exact .of_handled (by decide) ((accepts_orderNumbers x y).map fun _ _ => trivial)
  | relation question =>
      have listed : (.number, .number) ∈ plainPairs (.relation question) := by
        cases question <;> decide
      exact .of_handled listed ((accepts_orderNumbers x y).map fun _ _ => trivial)
  | convert => exact .of_refused (by decide)

theorem onQuantities_settled (operator : Operator) (x y : Quantity) :
    Settled operator .quantity .quantity (onQuantities operator x y) := by
  have magnitude := y.accepts_magnitudeIn x.unit
  have order := accepts_orderQuantities x y
  cases operator with
  | add | subtract => exact .of_handled (by decide) (magnitude.map fun _ _ => rfl)
  | divide =>
      refine .of_handled (by decide) (magnitude.bind fun z _ => ?_)
      exact (accepts_divisor z).bind fun _ _ => trivial
  | compare => exact .of_handled (by decide) (order.map fun _ _ => trivial)
  | relation question =>
      have listed : (.quantity, .quantity) ∈ plainPairs (.relation question) := by
        cases question <;> decide
      exact .of_handled listed (order.map fun _ _ => trivial)
  | multiply | convert => exact .of_refused (by decide)

theorem onQuantityNumber_settled (operator : Operator) (x : Quantity) (k : Binary64) :
    Settled operator .quantity .number (onQuantityNumber operator x k) := by
  cases operator with
  | multiply => exact .of_handled (by decide) rfl
  | divide => exact .of_handled (by decide) ((accepts_divisor k).map fun _ _ => rfl)
  | add | subtract | compare | convert => exact .of_refused (by decide)
  | relation question => cases question <;> exact .of_refused (by decide)

theorem onNumberQuantity_settled (operator : Operator) (k : Binary64) (x : Quantity) :
    Settled operator .number .quantity (onNumberQuantity operator k x) := by
  cases operator with
  | multiply => exact .of_handled (by decide) rfl
  | add | subtract | divide | compare | convert => exact .of_refused (by decide)
  | relation question => cases question <;> exact .of_refused (by decide)

theorem onBooleans_settled (operator : Operator) (x y : Bool) :
    Settled operator .boolean .boolean (onBooleans operator x y) := by
  cases operator with
  | add | subtract | multiply | divide | compare | convert => exact .of_refused (by decide)
  | relation question =>
      cases question with
      | equal | unequal => exact .of_handled (by decide) trivial
      | larger | largerEq | smaller | smallerEq => exact .of_refused (by decide)

/-- Plain arithmetic is settled by the kinds of its operands. -/
theorem applyPlain_settled (operator : Operator) (a b : Value) :
    Settled operator a.kind b.kind (applyPlain operator a b) := by
  have mixed : ∀ operator ∈ Operator.all, ∀ left ∈ Kind.all, ∀ right ∈ Kind.all,
      (left, right) ∈ plainPairs operator -> (left, right) ∈
        [(.number, .number), (.quantity, .quantity), (.quantity, .number), (.number, .quantity),
          (.boolean, .boolean)] := by
    decide +kernel
  cases a <;> cases b
  case number.number x y => exact onNumbers_settled operator x y
  case quantity.quantity x y => exact onQuantities_settled operator x y
  case quantity.number x k => exact onQuantityNumber_settled operator x k
  case number.quantity k x => exact onNumberQuantity_settled operator k x
  case boolean.boolean x y => exact onBooleans_settled operator x y
  all_goals
    refine .of_refused fun listed => ?_
    exact absurd (mixed operator operator.mem_all _ (Kind.mem_all _) _ (Kind.mem_all _) listed)
      (by simp [Value.kind])

/-- No quantity that plain arithmetic answers with has an exact count. -/
theorem applyPlain_yields_countless (operator : Operator) (a b : Value) :
    Yields Value.Countless (applyPlain operator a b) := by
  have settled := applyPlain_settled operator a b
  by_cases listed : (a.kind, b.kind) ∈ plainPairs operator
  · exact (settled.handled listed).yields
  · rw [settled.refused listed]
    exact .of_error _

end Arithmetic
end Chronometry
