import Chronometry.Proofs.Order.Comparison

/-!
# Relations follow the comparison

A relation of two values is decided by their comparison.  Values of time take their order from the
registered implementations and all others from plain arithmetic, but either way there is one order
behind the comparison and the six relations, and one failure.  Truth values are the exception: they
can be equal or not without having an order.
-/

namespace Chronometry

open Arithmetic Registry

/-- The relation that a question is about, between whole numbers. -/
def Relation.between : Relation -> Int -> Int -> Bool
  | .larger, m, n => n < m
  | .largerEq, m, n => n ≤ m
  | .smaller, m, n => m < n
  | .smallerEq, m, n => m ≤ n
  | .equal, m, n => m = n
  | .unequal, m, n => m ≠ n

theorem Relation.holds_eq_between (question : Relation) (order : Ordering) :
    question.holds order = question.between (signum order) 0 := by
  cases question <;> cases order <;> rfl

/-- The error of a comparison as another operator words it: an unsupported operation is named for
the operator that was asked for, and every other error stays what it is. -/
def Error.askedBy (operator : Operator) : Error -> Error
  | .unsupported .compare left right => .unsupported operator left right
  | other => other

namespace Arithmetic

/-- The order of two values behind a comparison or a relation. -/
def orderValues (operator : Operator) : Value -> Value -> Except Error Ordering
  | .number x, .number y => orderNumbers x y
  | .quantity x, .quantity y => orderQuantities x y
  | a, b => orderTimes operator a b

theorem apply_compare_eq (a b : Value) :
    standard.apply .compare a b =
      (fun order => .number (signOf order)) <$> orderValues .compare a b := by
  -- The two diagonal cases are registered; every other pair of kinds is left to plain arithmetic.
  cases a <;> cases b
  case instant.instant x y => exact apply_compare_instants x y
  case duration.duration x y => exact apply_compare_durations x y
  all_goals
    rw [apply_order_of_not_time (Or.inl rfl) _ _ (by simp [Value.kind, Kind.timeKinds])]
    rfl

theorem apply_relation_eq (question : Relation) {a b : Value}
    (notBooleans : ¬(a.kind = .boolean ∧ b.kind = .boolean)) :
    standard.apply (.relation question) a b =
      (fun order => .boolean (question.holds order)) <$> orderValues (.relation question) a b := by
  cases a <;> cases b
  case instant.instant x y => exact apply_relation_instants question x y
  case duration.duration x y => exact apply_relation_durations question x y
  case boolean.boolean => exact absurd ⟨rfl, rfl⟩ notBooleans
  all_goals
    rw [apply_order_of_not_time (Or.inr rfl) _ _ (by simp [Value.kind, Kind.timeKinds])]
    rfl

/-! ## One order and one failure -/

theorem orderNumbers_mapError (operator : Operator) (x y : Binary64) :
    (orderNumbers x y).mapError (Error.askedBy operator) = orderNumbers x y := by
  unfold orderNumbers
  cases x.order? y <;> rfl

theorem magnitudeIn_mapError (operator : Operator) (q : Quantity) (unit : Measure) :
    (q.magnitudeIn unit).mapError (Error.askedBy operator) = q.magnitudeIn unit := by
  unfold Quantity.magnitudeIn
  split
  · rfl
  · split <;> rfl

theorem orderQuantities_mapError (operator : Operator) (x y : Quantity) :
    (orderQuantities x y).mapError (Error.askedBy operator) = orderQuantities x y := by
  have converted := magnitudeIn_mapError operator y x.unit
  unfold orderQuantities
  cases magnitude : y.magnitudeIn x.unit with
  | error error =>
      rw [magnitude] at converted
      exact congrArg Except.error (Except.error.inj converted)
  | ok z => exact orderNumbers_mapError operator x.value z

theorem withinLimits_mapError {α : Type} (operator : Operator) (call : TimeCall)
    (answer : Option α) :
    (Error.withinLimits call answer).mapError (Error.askedBy operator) =
      Error.withinLimits call answer := by
  cases answer <;> rfl

/-- The order is the same whoever asks, and so is its failure but for the operator that it names. -/
theorem orderValues_relation (question : Relation) (a b : Value) :
    orderValues (.relation question) a b =
      (orderValues .compare a b).mapError (Error.askedBy (.relation question)) := by
  cases a <;> cases b
  case number.number x y => exact (orderNumbers_mapError _ x y).symm
  case quantity.quantity x y => exact (orderQuantities_mapError _ x y).symm
  case duration.duration x y => exact (withinLimits_mapError _ _ (x.order? y)).symm
  all_goals rfl

variable {a b : Value}

/-- A relation answers exactly when the comparison does, and then by the sign of the comparison. -/
theorem apply_relation_eq_ok_iff (question : Relation)
    (notBooleans : ¬(a.kind = .boolean ∧ b.kind = .boolean)) (truth : Bool) :
    standard.apply (.relation question) a b = .ok (.boolean truth) ↔
      ∃ sign, Compares a b sign ∧ truth = question.between sign 0 := by
  have compared := apply_compare_eq a b
  rw [apply_relation_eq question notBooleans, orderValues_relation]
  cases found : orderValues .compare a b with
  | error error =>
      rw [found] at compared
      constructor
      · intro impossible
        cases impossible
      · rintro ⟨sign, answer, _⟩
        cases compared.symm.trans answer.2
  | ok order =>
      rw [found] at compared
      simp only [compares_iff_of_apply compared, exists_eq_left, ← Relation.holds_eq_between]
      constructor
      · intro same
        cases same
        rfl
      · rintro rfl
        rfl

/-- A relation fails exactly when the comparison does, and for the same reason. -/
theorem apply_relation_eq_error_iff (question : Relation)
    (notBooleans : ¬(a.kind = .boolean ∧ b.kind = .boolean)) (error : Error) :
    standard.apply (.relation question) a b = .error error ↔
      ∃ cause, standard.apply .compare a b = .error cause ∧
        error = cause.askedBy (.relation question) := by
  rw [apply_relation_eq question notBooleans, orderValues_relation, apply_compare_eq]
  cases orderValues .compare a b with
  | error cause =>
      constructor
      · intro failed
        exact ⟨cause, rfl, (Except.error.inj failed).symm⟩
      · rintro ⟨other, failed, rfl⟩
        cases failed
        rfl
  | ok order =>
      constructor
      · intro impossible
        cases impossible
      · rintro ⟨cause, impossible, _⟩
        cases impossible

end Arithmetic

/-- Truth values can be asked whether they are equal, and nothing else. -/
theorem apply_booleans (operator : Operator) (x y : Bool) :
    standard.apply operator (.boolean x) (.boolean y) =
      if operator = .relation .equal then .ok (.boolean (x == y))
      else if operator = .relation .unequal then .ok (.boolean (x != y))
      else .error (.unsupported operator .boolean .boolean) := by
  have plain : Kind.boolean ∉ Kind.timeKinds := by decide
  rw [apply_of_no_time operator (.boolean x) (.boolean y) plain plain]
  cases operator
  case relation question => cases question <;> rfl
  all_goals rfl

/-- Every relation is derived from the comparison.  Unless both operands are truth values, a
relation answers with a truth value exactly when the comparison answers with a sign that stands to
zero as the relation says, and it fails exactly when the comparison fails, for the same reason.  Of
two truth values one can only ask whether they are equal. -/
theorem relations_follow_comparison :
    (∀ (question : Relation) (a b : Value), ¬(a.kind = .boolean ∧ b.kind = .boolean) ->
      (∀ truth, standard.apply (.relation question) a b = .ok (.boolean truth) ↔
        ∃ sign, Compares a b sign ∧ truth = question.between sign 0) ∧
      (∀ error, standard.apply (.relation question) a b = .error error ↔
        ∃ cause, standard.apply .compare a b = .error cause ∧
          error = cause.askedBy (.relation question))) ∧
    (∀ (operator : Operator) (x y : Bool),
      standard.apply operator (.boolean x) (.boolean y) =
        if operator = .relation .equal then .ok (.boolean (x == y))
        else if operator = .relation .unequal then .ok (.boolean (x != y))
        else .error (.unsupported operator .boolean .boolean)) := by
  refine ⟨?_, apply_booleans⟩
  intro question a b notBooleans
  exact ⟨apply_relation_eq_ok_iff question notBooleans,
    apply_relation_eq_error_iff question notBooleans⟩

/-- What is not a number fails every relation in the same way, and so does a month, with the
comparison of durations that was refused; an unsupported relation names itself. -/
theorem relations_follow_failed_comparison :
    standard.apply (.relation .unequal) (.number .nan) (.number 1) =
      .error (.outOfRange (.incomparable .nan 1)) ∧
      (∃ month : Duration, month.get .month = 1 ∧ ∀ question : Relation,
        standard.apply (.relation question) (.duration month) (.duration month) =
          .error (.outOfRange (.limits (.comparison month month)))) ∧
      standard.apply (.relation .larger) (.instant .epoch) (.duration .zero) =
        .error (.unsupported (.relation .larger) .instant .duration) := by
  let month : Duration := ⟨⟨0, 1, 0, 0, 0, 0, 0, 0, 0, 0⟩, by decide, by decide⟩
  have notANumber := relations_follow_comparison.1 .unequal (.number .nan) (.number 1) (by decide)
  have months (question : Relation) :=
    relations_follow_comparison.1 question (.duration month) (.duration month) nofun
  have mixed :=
    relations_follow_comparison.1 .larger (.instant .epoch) (.duration .zero) (by decide)
  have calendar : month.HasCalendarFields := by decide
  have refused := apply_compare_of_calendar (Or.inl calendar : _ ∨ month.HasCalendarFields)
  exact ⟨(notANumber.2 _).mpr ⟨_, rfl, rfl⟩,
    ⟨month, rfl, fun question => ((months question).2 _).mpr ⟨_, refused, rfl⟩⟩,
    (mixed.2 _).mpr ⟨_, rfl, rfl⟩⟩

end Chronometry
