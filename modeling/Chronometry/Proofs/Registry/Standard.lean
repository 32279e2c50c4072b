import Chronometry.Proofs.Registry.Log

/-!
# The standard registry

Every kind is registered with its own test, so that the standard registry takes each value for what
it is.  What it does with two values is therefore decided by the catalogue of time at their kinds;
where the catalogue has no entry, plain arithmetic answers.
-/

namespace Chronometry
namespace Registry

open Error (withinLimits)

/-- The catalogue of time: what the standard registry has been told about signatures. -/
def catalogue : List (Signature × Implementation) :=
  timeCatalogue ++ Kind.timeKinds.flatMap orderCatalogue

/-- The standard registry recognizes every value. -/
@[simp] theorem kindOf?_standard (value : Value) :
    standard.kinds.kindOf? value = some value.kind := by
  cases value <;> rfl

theorem resolve?_standard (operator : Operator) (left right : Kind) :
    standard.resolve? operator left right =
      (⟨catalogue⟩ : FirstWins Signature Implementation).get? ⟨operator, left, right⟩ := by
  rw [standard, resolve?_ofLog]
  rfl

/-- What the standard registry does not resolve is what the catalogue does not list. -/
theorem resolve?_standard_eq_none_iff (operator : Operator) (left right : Kind) :
    standard.resolve? operator left right = none ↔
      ⟨operator, left, right⟩ ∉ catalogue.map Prod.fst := by
  rw [resolve?_standard, FirstWins.get?_eq_none_iff]
  rfl

/-- The standard registry dispatches by the kinds of the operands. -/
theorem implementation?_standard (operator : Operator) (a b : Value) :
    standard.implementation? operator a b = standard.resolve? operator a.kind b.kind := by
  simp only [implementation?, kindOf?_standard]

/-- An operation of the catalogue gets the call. -/
theorem apply_standard_of_resolved {operator : Operator} {implementation : Implementation}
    (a b : Value) (resolved : standard.resolve? operator a.kind b.kind = some implementation) :
    standard.apply operator a b = implementation a b := by
  simp only [apply, implementation?_standard, resolved]

/-- What is not in the catalogue is left to plain arithmetic. -/
theorem apply_standard_of_unresolved {operator : Operator} (a b : Value)
    (unresolved : standard.resolve? operator a.kind b.kind = none) :
    standard.apply operator a b = Arithmetic.applyPlain operator a b := by
  simp only [apply, implementation?_standard, unresolved]

/-- Every operation of the catalogue has an operand of time. -/
theorem kinds_mem_catalogue : ∀ key ∈ catalogue.map Prod.fst,
    key.left ∈ Kind.timeKinds ∨ key.right ∈ Kind.timeKinds := by
  decide

/-- Without operands of time there is plain arithmetic alone. -/
theorem apply_of_no_time (operator : Operator) (a b : Value) (left : a.kind ∉ Kind.timeKinds)
    (right : b.kind ∉ Kind.timeKinds) :
    standard.apply operator a b = Arithmetic.applyPlain operator a b := by
  apply apply_standard_of_unresolved
  rw [resolve?_standard_eq_none_iff]
  intro listed
  rcases kinds_mem_catalogue _ listed with time | time
  · exact left time
  · exact right time

/-! ## Operations on instants and durations -/

theorem apply_add_instant_duration (a : Instant) (d : Duration) :
    standard.apply .add (.instant a) (.duration d) =
      withinLimits (.later a d) (.instant <$> a.add? d) := by
  have resolved : standard.resolve? .add .instant .duration =
      some Arithmetic.addInstantDuration := rfl
  exact apply_standard_of_resolved (.instant a) (.duration d) resolved

theorem apply_add_duration_instant (d : Duration) (a : Instant) :
    standard.apply .add (.duration d) (.instant a) =
      withinLimits (.later a d) (.instant <$> a.add? d) := by
  have resolved : standard.resolve? .add .duration .instant =
      some Arithmetic.addDurationInstant := rfl
  exact apply_standard_of_resolved (.duration d) (.instant a) resolved

theorem apply_add_durations (x y : Duration) :
    standard.apply .add (.duration x) (.duration y) =
      withinLimits (.sum x y) (.duration <$> x.add? y) := by
  have resolved : standard.resolve? .add .duration .duration = some Arithmetic.addDurations := rfl
  exact apply_standard_of_resolved (.duration x) (.duration y) resolved

theorem apply_subtract_instants (a b : Instant) :
    standard.apply .subtract (.instant a) (.instant b) =
      withinLimits (.elapsed a b) (.duration <$> a.since? b) := by
  have resolved : standard.resolve? .subtract .instant .instant =
      some Arithmetic.subtractInstants := rfl
  exact apply_standard_of_resolved (.instant a) (.instant b) resolved

theorem apply_subtract_instant_duration (a : Instant) (d : Duration) :
    standard.apply .subtract (.instant a) (.duration d) =
      withinLimits (.earlier a d) (.instant <$> a.sub? d) := by
  have resolved : standard.resolve? .subtract .instant .duration =
      some Arithmetic.subtractInstantDuration := rfl
  exact apply_standard_of_resolved (.instant a) (.duration d) resolved

theorem apply_subtract_durations (x y : Duration) :
    standard.apply .subtract (.duration x) (.duration y) =
      withinLimits (.difference x y) (.duration <$> x.sub? y) := by
  have resolved : standard.resolve? .subtract .duration .duration =
      some Arithmetic.subtractDurations := rfl
  exact apply_standard_of_resolved (.duration x) (.duration y) resolved

theorem apply_multiply_duration_number (d : Duration) (k : Binary64) :
    standard.apply .multiply (.duration d) (.number k) =
      d.totalMilliseconds >>= fun total => .duration <$> Duration.ofMilliseconds (total * k) := by
  have resolved : standard.resolve? .multiply .duration .number =
      some Arithmetic.multiplyDurationNumber := rfl
  exact apply_standard_of_resolved (.duration d) (.number k) resolved

theorem apply_divide_duration_number (d : Duration) (k : Binary64) :
    standard.apply .divide (.duration d) (.number k) =
      Arithmetic.divisor k >>= fun k =>
        d.totalMilliseconds >>= fun total => .duration <$> Duration.ofMilliseconds (total / k) := by
  have resolved : standard.resolve? .divide .duration .number =
      some Arithmetic.divideDurationNumber := rfl
  exact apply_standard_of_resolved (.duration d) (.number k) resolved

theorem apply_divide_durations (x y : Duration) :
    standard.apply .divide (.duration x) (.duration y) =
      y.totalMilliseconds >>= fun total => Arithmetic.divisor total >>= fun below =>
        x.totalMilliseconds >>= fun above => .ok (.number (above / below)) := by
  have resolved : standard.resolve? .divide .duration .duration =
      some Arithmetic.divideDurations := rfl
  exact apply_standard_of_resolved (.duration x) (.duration y) resolved

/-! ## Questions of order -/

/-- The catalogue orders values of one kind of time, and no others. -/
theorem kinds_of_order_mem_catalogue : ∀ key ∈ catalogue.map Prod.fst,
    key.operator = .compare ∨ key.operator.isRelation = true -> key.left = key.right ∧
      key.left ∈ Kind.timeKinds := by
  decide

theorem apply_order_of_not_time {operator : Operator}
    (asks : operator = .compare ∨ operator.isRelation = true) (a b : Value)
    (notTime : ¬(a.kind = b.kind ∧ a.kind ∈ Kind.timeKinds)) :
    standard.apply operator a b = Arithmetic.applyPlain operator a b := by
  apply apply_standard_of_unresolved
  rw [resolve?_standard_eq_none_iff]
  intro listed
  exact notTime (kinds_of_order_mem_catalogue _ listed asks)

theorem apply_compare_instants (a b : Instant) :
    standard.apply .compare (.instant a) (.instant b) =
      .ok (.number (Arithmetic.signOf (a.order b))) := by
  have resolved : standard.resolve? .compare .instant .instant = some Arithmetic.compareTimes := rfl
  exact apply_standard_of_resolved (.instant a) (.instant b) resolved

theorem apply_compare_durations (x y : Duration) :
    standard.apply .compare (.duration x) (.duration y) =
      (fun order => .number (Arithmetic.signOf order)) <$>
        withinLimits (.comparison x y) (x.order? y) := by
  have resolved : standard.resolve? .compare .duration .duration =
      some Arithmetic.compareTimes := rfl
  exact apply_standard_of_resolved (.duration x) (.duration y) resolved

theorem apply_relation_instants (question : Relation) (a b : Instant) :
    standard.apply (.relation question) (.instant a) (.instant b) =
      .ok (.boolean (question.holds (a.order b))) := by
  have resolved : standard.resolve? (.relation question) .instant .instant =
      some (Arithmetic.relateTimes question) := by
    cases question <;> rfl
  exact apply_standard_of_resolved (.instant a) (.instant b) resolved

theorem apply_relation_durations (question : Relation) (x y : Duration) :
    standard.apply (.relation question) (.duration x) (.duration y) =
      (fun order => .boolean (question.holds order)) <$>
        withinLimits (.comparison x y) (x.order? y) := by
  have resolved : standard.resolve? (.relation question) .duration .duration =
      some (Arithmetic.relateTimes question) := by
    cases question <;> rfl
  exact apply_standard_of_resolved (.duration x) (.duration y) resolved

/-! ## Conversions -/

/-- Only instants and durations have conversions of their own. -/
theorem conversion?_standard (value : Value) :
    standard.conversion? value =
      match value.kind with
      | .instant => some Arithmetic.convertInstant
      | .duration => some Arithmetic.convertDuration
      | _ => none := by
  cases value <;> rfl

theorem convert_instant (i : Instant) (unit : Measure) :
    standard.convert (.instant i) unit =
      .quantity <$> Quantity.ofNanoseconds i.nanoseconds unit := by
  simp only [convert, conversion?_standard, Value.kind, Arithmetic.convertInstant]

theorem convert_duration (d : Duration) (unit : Measure) :
    standard.convert (.duration d) unit = Arithmetic.convertDuration (.duration d) unit := by
  simp only [convert, conversion?_standard, Value.kind]

/-- Values that are not of time are converted by plain arithmetic alone. -/
theorem convert_of_not_time (value : Value) (unit : Measure)
    (notTime : value.kind ∉ Kind.timeKinds) :
    standard.convert value unit = Arithmetic.convertPlain value unit := by
  cases value
  case instant => exact absurd (List.mem_cons_self) notTime
  case duration => exact absurd (List.mem_cons_of_mem _ List.mem_cons_self) notTime
  all_goals simp only [convert, conversion?_standard, Value.kind]

theorem convert_quantity (q : Quantity) (unit : Measure) :
    standard.convert (.quantity q) unit = .quantity <$> q.convert unit := by
  have notTime : Kind.quantity ∉ Kind.timeKinds := by decide
  exact convert_of_not_time (.quantity q) unit notTime

end Registry
end Chronometry
