import Chronometry.Proofs.Arithmetic.Outcome
import Chronometry.Proofs.Registry.Standard

/-!
# What the standard registry supports

An operation is supported when the catalogue of time or the table of plain arithmetic lists it for
the kinds of its operands.  The two lists are written out below, apart from the registrations and
from the cases of plain arithmetic, and the standard registry is shown to support exactly what they
list.  One half is a matter of look-up.  The other half is that an implementation which is looked up
never turns its operands away: each checks the kinds of its operands once more, and these checks
cannot fail behind a dispatch that goes by kinds.

Where no operand is of time the registry is plain arithmetic and nothing else, and plain arithmetic
by itself knows no instants and durations.
-/

namespace Chronometry

open Error (withinLimits)

/-- The kinds of operands for which there are operations on time. -/
def timePairs : Operator -> List (Kind × Kind)
  | .add => [(.instant, .duration), (.duration, .instant), (.duration, .duration)]
  | .subtract => [(.instant, .instant), (.instant, .duration), (.duration, .duration)]
  | .multiply => [(.duration, .number), (.number, .duration)]
  | .divide => [(.duration, .number), (.duration, .duration)]
  | .compare | .relation _ => [(.instant, .instant), (.duration, .duration)]
  | .convert => []

namespace Value

theorem exists_number {a : Value} (kind : a.kind = .number) : ∃ x, a = .number x := by
  cases a <;> first | exact ⟨_, rfl⟩ | contradiction

theorem exists_instant {a : Value} (kind : a.kind = .instant) : ∃ i, a = .instant i := by
  cases a <;> first | exact ⟨_, rfl⟩ | contradiction

theorem exists_duration {a : Value} (kind : a.kind = .duration) : ∃ d, a = .duration d := by
  cases a <;> first | exact ⟨_, rfl⟩ | contradiction

end Value

/-- An implementation handles all operands of two kinds. -/
def Handles (implementation : Implementation) (left right : Kind) : Prop :=
  ∀ a b : Value, a.kind = left -> b.kind = right -> Handled Value.Countless (implementation a b)

namespace Arithmetic

theorem handled_withinLimits {α : Type} (f : α -> Value)
    (countless : ∀ value, (f value).Countless) (call : TimeCall) (answer : Option α) :
    Handled Value.Countless (withinLimits call (f <$> answer)) := by
  cases answer with
  | none => exact rfl
  | some value => exact countless value

theorem handles_addInstantDuration : Handles addInstantDuration .instant .duration := by
  intro a b left right
  rcases Value.exists_instant left with ⟨i, rfl⟩
  rcases Value.exists_duration right with ⟨d, rfl⟩
  exact handled_withinLimits .instant (fun _ => trivial) _ (i.add? d)

theorem handles_addDurationInstant : Handles addDurationInstant .duration .instant := by
  intro a b left right
  exact handles_addInstantDuration b a right left

theorem handles_addDurations : Handles addDurations .duration .duration := by
  intro a b left right
  rcases Value.exists_duration left with ⟨x, rfl⟩
  rcases Value.exists_duration right with ⟨y, rfl⟩
  exact handled_withinLimits .duration (fun _ => trivial) _ (x.add? y)

theorem handles_subtractInstants : Handles subtractInstants .instant .instant := by
  intro a b left right
  rcases Value.exists_instant left with ⟨x, rfl⟩
  rcases Value.exists_instant right with ⟨y, rfl⟩
  exact handled_withinLimits .duration (fun _ => trivial) _ (x.since? y)

theorem handles_subtractInstantDuration : Handles subtractInstantDuration .instant .duration := by
  intro a b left right
  rcases Value.exists_instant left with ⟨i, rfl⟩
  rcases Value.exists_duration right with ⟨d, rfl⟩
  exact handled_withinLimits .instant (fun _ => trivial) _ (i.sub? d)

theorem handles_subtractDurations : Handles subtractDurations .duration .duration := by
  intro a b left right
  rcases Value.exists_duration left with ⟨x, rfl⟩
  rcases Value.exists_duration right with ⟨y, rfl⟩
  exact handled_withinLimits .duration (fun _ => trivial) _ (x.sub? y)

theorem handles_multiplyDurationNumber : Handles multiplyDurationNumber .duration .number := by
  intro a b left right
  rcases Value.exists_duration left with ⟨d, rfl⟩
  rcases Value.exists_number right with ⟨k, rfl⟩
  refine d.accepts_totalMilliseconds.bind fun total _ => ?_
  exact (Duration.accepts_ofMilliseconds (total * k)).map fun _ _ => trivial

theorem handles_multiplyNumberDuration : Handles multiplyNumberDuration .number .duration := by
  intro a b left right
  exact handles_multiplyDurationNumber b a right left

theorem handles_divideDurationNumber : Handles divideDurationNumber .duration .number := by
  intro a b left right
  rcases Value.exists_duration left with ⟨d, rfl⟩
  rcases Value.exists_number right with ⟨k, rfl⟩
  refine (accepts_divisor k).bind fun k _ => ?_
  refine d.accepts_totalMilliseconds.bind fun total _ => ?_
  exact (Duration.accepts_ofMilliseconds (total / k)).map fun _ _ => trivial

theorem handles_divideDurations : Handles divideDurations .duration .duration := by
  intro a b left right
  rcases Value.exists_duration left with ⟨x, rfl⟩
  rcases Value.exists_duration right with ⟨y, rfl⟩
  refine y.accepts_totalMilliseconds.bind fun total _ => ?_
  refine (accepts_divisor total).bind fun below _ => ?_
  exact x.accepts_totalMilliseconds.bind fun above _ => trivial

theorem accepts_orderTimes (operator : Operator) {kind : Kind} (time : kind ∈ Kind.timeKinds)
    {a b : Value} (left : a.kind = kind) (right : b.kind = kind) :
    Accepts (orderTimes operator a b) := by
  simp only [Kind.timeKinds, List.mem_cons, List.not_mem_nil, or_false] at time
  rcases time with rfl | rfl
  · rcases Value.exists_instant left with ⟨x, rfl⟩
    rcases Value.exists_instant right with ⟨y, rfl⟩
    exact trivial
  · rcases Value.exists_duration left with ⟨x, rfl⟩
    rcases Value.exists_duration right with ⟨y, rfl⟩
    exact accepts_withinLimits _ (x.order? y)

theorem handles_compareTimes {kind : Kind} (time : kind ∈ Kind.timeKinds) :
    Handles compareTimes kind kind := by
  intro a b left right
  exact (accepts_orderTimes .compare time left right).map fun _ _ => trivial

theorem handles_relateTimes (question : Relation) {kind : Kind} (time : kind ∈ Kind.timeKinds) :
    Handles (relateTimes question) kind kind := by
  intro a b left right
  exact (accepts_orderTimes (.relation question) time left right).map fun _ _ => trivial

end Arithmetic

namespace Registry

open Arithmetic

theorem handles_of_mem_timeCatalogue :
    ∀ entry ∈ timeCatalogue, Handles entry.2 entry.1.left entry.1.right := by
  simp only [timeCatalogue, List.forall_mem_cons]
  refine ⟨handles_addInstantDuration, handles_addDurationInstant, handles_addDurations,
    handles_subtractInstants, handles_subtractInstantDuration, handles_subtractDurations,
    handles_multiplyDurationNumber, handles_multiplyNumberDuration, handles_divideDurationNumber,
    handles_divideDurations, ?_⟩
  intro entry impossible
  contradiction

theorem handles_of_mem_orderCatalogue {kind : Kind} (time : kind ∈ Kind.timeKinds) :
    ∀ entry ∈ orderCatalogue kind, Handles entry.2 entry.1.left entry.1.right := by
  simp only [orderCatalogue, List.forall_mem_cons, List.forall_mem_map]
  refine ⟨handles_compareTimes time, ?_⟩
  intro question _
  exact handles_relateTimes question time

/-- Every implementation of the catalogue handles the kinds of operands that it is registered
for. -/
theorem handles_of_mem_catalogue {entry : Signature × Implementation}
    (listed : entry ∈ catalogue) :
    Handles entry.2 entry.1.left entry.1.right := by
  rcases List.mem_append.mp listed with operation | question
  · exact handles_of_mem_timeCatalogue entry operation
  · rcases List.mem_flatMap.mp question with ⟨kind, time, question⟩
    exact handles_of_mem_orderCatalogue time entry question

/-- The catalogue lists the operations on time, and no others. -/
theorem mem_catalogue_iff (operator : Operator) (left right : Kind) :
    ⟨operator, left, right⟩ ∈ catalogue.map Prod.fst ↔
      (left, right) ∈ timePairs operator := by
  have every : ∀ operator ∈ Operator.all, ∀ left ∈ Kind.all, ∀ right ∈ Kind.all,
      ⟨operator, left, right⟩ ∈ catalogue.map Prod.fst ↔
        (left, right) ∈ timePairs operator := by
    decide +kernel
  exact every operator operator.mem_all left left.mem_all right right.mem_all

theorem exists_resolve?_standard_iff (operator : Operator) (left right : Kind) :
    (∃ implementation, standard.resolve? operator left right = some implementation) ↔
      (left, right) ∈ timePairs operator := by
  rw [← mem_catalogue_iff, ← Option.ne_none_iff_exists', ne_eq, resolve?_standard_eq_none_iff,
    Decidable.not_not]

theorem handles_of_resolve?_standard {operator : Operator} {left right : Kind}
    {implementation : Implementation}
    (resolved : standard.resolve? operator left right = some implementation) :
    Handles implementation left right := by
  rw [resolve?_standard] at resolved
  exact handles_of_mem_catalogue (FirstWins.mem_entries_of_get? resolved)

/-! ## Operators -/

/-- An operation that the standard registry supports for two kinds of operands. -/
def Supports (operator : Operator) (left right : Kind) : Prop :=
  (left, right) ∈ timePairs operator ∨ (left, right) ∈ plainPairs operator

theorem handled_apply_of_supports {operator : Operator} {a b : Value}
    (supported : Supports operator a.kind b.kind) :
    Handled Value.Countless (standard.apply operator a b) := by
  by_cases time : (a.kind, b.kind) ∈ timePairs operator
  · rcases (exists_resolve?_standard_iff operator _ _).mpr time with ⟨implementation, resolved⟩
    rw [apply_standard_of_resolved a b resolved]
    exact handles_of_resolve?_standard resolved a b rfl rfl
  · have plain := supported.resolve_left time
    have unresolved : standard.resolve? operator a.kind b.kind = none := by
      rwa [resolve?_standard_eq_none_iff, mem_catalogue_iff]
    rw [apply_standard_of_unresolved a b unresolved]
    exact (applyPlain_settled operator a b).handled plain

theorem apply_of_not_supports {operator : Operator} {a b : Value}
    (unsupported : ¬Supports operator a.kind b.kind) :
    standard.apply operator a b = .error (.unsupported operator a.kind b.kind) := by
  rcases not_or.mp unsupported with ⟨notTime, notPlain⟩
  have unresolved : standard.resolve? operator a.kind b.kind = none := by
    rwa [resolve?_standard_eq_none_iff, mem_catalogue_iff]
  rw [apply_standard_of_unresolved a b unresolved]
  exact (applyPlain_settled operator a b).refused notPlain

/-- The standard registry refuses what it does not support, and nothing else. -/
theorem refuses_apply_iff (operator : Operator) (a b : Value)
    (refusal : Operator × String × String) :
    Refuses (standard.apply operator a b) refusal ↔
      refusal = (operator, a.kind.name, b.kind.name) ∧ ¬Supports operator a.kind b.kind := by
  constructor
  · intro refused
    have unsupported : ¬Supports operator a.kind b.kind := fun supported =>
      (handled_apply_of_supports supported).not_refuses refusal refused
    rcases refused with ⟨error, answer, named⟩
    rw [apply_of_not_supports unsupported] at answer
    cases answer
    exact ⟨(Option.some.inj named).symm, unsupported⟩
  · rintro ⟨rfl, unsupported⟩
    exact ⟨_, apply_of_not_supports unsupported, rfl⟩

/-- Plain arithmetic has no operation on time. -/
theorem applyPlain_of_time (operator : Operator) (a b : Value)
    (time : a.kind ∈ Kind.timeKinds ∨ b.kind ∈ Kind.timeKinds) :
    applyPlain operator a b = .error (.unsupported operator a.kind b.kind) := by
  have every : ∀ operator ∈ Operator.all, ∀ pair ∈ plainPairs operator,
      pair.1 ∉ Kind.timeKinds ∧ pair.2 ∉ Kind.timeKinds := by
    decide
  apply (applyPlain_settled operator a b).refused
  intro listed
  rcases every operator operator.mem_all _ listed with ⟨left, right⟩
  exact time.elim left right

/-! ## Conversions -/

theorem accepts_convert_of_hasUnits (value : Value) (unit : Measure) (number : value.kind ≠ .number)
    (boolean : value.kind ≠ .boolean) : Accepts (standard.convert value unit) := by
  cases value with
  | number x => exact absurd rfl number
  | boolean b => exact absurd rfl boolean
  | quantity q =>
      rw [convert_quantity]
      exact (q.accepts_convert unit).map fun _ _ => trivial
  | instant i =>
      rw [convert_instant]
      exact (Quantity.accepts_ofNanoseconds i.nanoseconds unit).map fun _ _ => trivial
  | duration d =>
      rw [convert_duration]
      refine d.accepts_totalMilliseconds.bind fun total _ => ?_
      exact (Quantity.accepts_convert _ unit).map fun _ _ => trivial

theorem convert_of_no_units (value : Value) (unit : Measure)
    (unitless : value.kind = .number ∨ value.kind = .boolean) :
    standard.convert value unit = .error (.unconvertible value.kind) := by
  cases value with
  | number x => rfl
  | boolean b => rfl
  | quantity q | instant i | duration d =>
      rcases unitless with impossible | impossible <;> contradiction

/-- Numbers and truth values are the only values that are refused a unit. -/
theorem refuses_convert_iff (value : Value) (unit : Measure)
    (refusal : Operator × String × String) :
    Refuses (standard.convert value unit) refusal ↔
      refusal = (.convert, value.kind.name, "Unit") ∧
        (value.kind = .number ∨ value.kind = .boolean) := by
  constructor
  · intro refused
    by_cases unitless : value.kind = .number ∨ value.kind = .boolean
    · rcases refused with ⟨error, answer, named⟩
      rw [convert_of_no_units value unit unitless] at answer
      cases answer
      exact ⟨(Option.some.inj named).symm, unitless⟩
    · rcases not_or.mp unitless with ⟨number, boolean⟩
      exact absurd refused
        ((accepts_convert_of_hasUnits value unit number boolean).not_refuses refusal)
  · rintro ⟨rfl, unitless⟩
    exact ⟨_, convert_of_no_units value unit unitless, rfl⟩

/-- The standard registry supports exactly the operations on time and those of plain arithmetic.  It
refuses an operator for all other kinds of operands, in the order in which they were given, and no
implementation behind a dispatch refuses anything.  Without operands of time it is plain arithmetic,
which for its part refuses every operand of time.  It converts everything but numbers and truth
values, and what is not of time it converts as plain arithmetic does. -/
theorem standard_supports_catalogue :
    (∀ (operator : Operator) (a b : Value) (refusal : Operator × String × String),
      Refuses (standard.apply operator a b) refusal ↔
        refusal = (operator, a.kind.name, b.kind.name) ∧
          ¬((a.kind, b.kind) ∈ timePairs operator ∨ (a.kind, b.kind) ∈ plainPairs operator)) ∧
    (∀ (operator : Operator) (left right : Kind),
      (∃ implementation, standard.resolve? operator left right = some implementation) ↔
        (left, right) ∈ timePairs operator) ∧
    (∀ (operator : Operator) (a b : Value) (implementation : Implementation)
      (refusal : Operator × String × String),
      standard.implementation? operator a b = some implementation ->
        ¬Refuses (implementation a b) refusal) ∧
    (∀ (operator : Operator) (a b : Value), a.kind ∉ Kind.timeKinds -> b.kind ∉ Kind.timeKinds ->
      standard.apply operator a b = applyPlain operator a b) ∧
    (∀ (operator : Operator) (a b : Value), a.kind ∈ Kind.timeKinds ∨ b.kind ∈ Kind.timeKinds ->
      applyPlain operator a b = .error (.unsupported operator a.kind b.kind)) ∧
    (∀ (value : Value) (unit : Measure) (refusal : Operator × String × String),
      Refuses (standard.convert value unit) refusal ↔
        refusal = (.convert, value.kind.name, "Unit") ∧
          (value.kind = .number ∨ value.kind = .boolean)) ∧
    (∀ (value : Value) (unit : Measure), value.kind ∉ Kind.timeKinds ->
      standard.convert value unit = convertPlain value unit) := by
  refine ⟨refuses_apply_iff, exists_resolve?_standard_iff, ?_, apply_of_no_time, applyPlain_of_time,
    refuses_convert_iff, convert_of_not_time⟩
  intro operator a b implementation refusal found
  rw [implementation?_standard] at found
  exact (handles_of_resolve?_standard found a b rfl rfl).not_refuses refusal

/-- An instant plus a number is refused in this order of the operands, a scaled duration is not, and
neither is plain arithmetic, which only divides by zero. -/
theorem standard_supports_and_refuses :
    Refuses (standard.apply .add (.instant .epoch) (.number 1)) (.add, "Instant", "Number") ∧
      ¬Refuses (standard.apply .multiply (.number .nan) (.duration .zero))
        (.multiply, "Number", "Duration") ∧
      standard.apply .divide (.number 1) (.number 0) = .error .divisionByZero := by
  rcases standard_supports_catalogue with ⟨refuses, _, _, plain, _⟩
  refine ⟨(refuses .add (.instant .epoch) (.number 1) _).mpr ⟨rfl, by decide⟩, ?_, ?_⟩
  · intro refused
    exact absurd ((refuses .multiply (.number .nan) (.duration .zero) _).mp refused).2 (by decide)
  · have nothing : (0 : Binary64).isZero = true := by decide +kernel
    rw [plain .divide (.number 1) (.number 0) (by decide) (by decide)]
    simp only [applyPlain, onNumbers, divisor, nothing, if_true]
    rfl

end Registry
end Chronometry
