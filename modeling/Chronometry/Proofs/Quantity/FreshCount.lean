import Chronometry.Engine
import Chronometry.Proofs.Binary64.Nearest
import Chronometry.Proofs.Quantity.Projection
import Chronometry.Proofs.Registry.Support

/-!
# No exact count is stale

A quantity of time may know two things about its size, a magnitude and an exact count.  Arithmetic
computes with the magnitude, and what is displayed is the count, so that the two must not come
apart: a magnitude that was rescaled beside a count that was copied would be written as one number
and be computed with as another.

They cannot come apart because a count is never copied.  An operation either drops it, as all of
plain arithmetic does, or projects it anew, as conversions between units of time do.  What an
operation answers with is therefore consistent whatever its operands are, and the values that a
sequence of operations has obtained are consistent because no later operation changes them.
-/

namespace Chronometry

open Arithmetic (applyPlain convertPlain applyPlain_yields_countless)
open Registry (standard)

namespace Quantity

variable {count : Int} {unit : Measure} {q r : Quantity}

/-- A quantity with an exact count is the projection of the count into its own unit, and of nothing
else. -/
def Fresh (q : Quantity) : Prop :=
  ∀ count, q.exactNanoseconds = some count -> ofNanoseconds count q.unit = .ok q

theorem Fresh.of_none (none : q.exactNanoseconds = none) : q.Fresh := by
  intro count found
  rw [none] at found
  contradiction

theorem Fresh.of_projected (projected : ofNanoseconds count unit = .ok q) : q.Fresh := by
  intro other found
  rw [exactNanoseconds_of_projected projected] at found
  rw [unit_of_projected projected, ← Option.some.inj found]
  exact projected

theorem ofName_yields_fresh (value : Binary64) (name : String) :
    Yields Fresh (ofName value name) := by
  have spelled : Yields (fun _ => True) (Measure.ofName name) := fun _ _ => trivial
  exact spelled.bind fun unit _ => Yields.of_ok (.of_none rfl)

theorem ofNanoseconds_yields_fresh (count : Int) (unit : Measure) :
    Yields Fresh (ofNanoseconds count unit) := by
  intro q projected
  exact .of_projected projected

/-- A conversion projects the count anew or drops it, whether or not the count was fresh before. -/
theorem convert_yields_fresh (q : Quantity) (unit : Measure) : Yields Fresh (q.convert unit) := by
  have dropped : Yields Fresh ((plain · unit) <$> q.magnitudeIn unit) :=
    (q.accepts_magnitudeIn unit).yields.map fun _ _ => .of_none rfl
  unfold convert
  cases q.exactNanoseconds with
  | none => exact dropped
  | some count =>
      by_cases time : unit.isTime = true
      · simp only [time, if_true]
        exact ofNanoseconds_yields_fresh count unit
      · simp only [time]
        exact dropped

/-! ## Whole magnitudes -/

/-- The magnitude of a multiple of the unit is the whole number rounded once.  The fraction adds
nothing to it. -/
theorem magnitudeOfNanoseconds_mul (whole : Int) {size : Nat} (positive : 0 < size) :
    magnitudeOfNanoseconds (whole * size) size = Binary64.ofInt whole := by
  have nonzero : (size : Int) ≠ 0 := Int.natCast_ne_zero.mpr (Nat.ne_of_gt positive)
  calc magnitudeOfNanoseconds (whole * size) size
      = Binary64.ofInt whole + Binary64.ofInt 0 / Binary64.ofInt size := by
        rw [magnitudeOfNanoseconds, Int.mul_tdiv_cancel whole nonzero, Int.mul_tmod_left]
    _ = Binary64.ofInt whole + Binary64.ofInt 0 := by rw [Binary64.ofInt_zero_div positive]
    _ = Binary64.ofInt whole := Binary64.ofInt_add_zero whole

/-- A fresh quantity with a whole magnitude computes with that magnitude, as far as binary64 has
it. -/
theorem Fresh.value_of_exactIntegral? (fresh : q.Fresh) {whole : Int}
    (found : q.exactIntegral? = some whole) :
    q.value = Binary64.ofInt whole := by
  cases counted : q.exactNanoseconds with
  | none =>
      unfold exactIntegral? at found
      rw [counted] at found
      split at found <;> contradiction
  | some count =>
      have projected := fresh count counted
      rcases (exactIntegral?_of_projected_iff projected whole).mp found with ⟨size, sized, rfl⟩
      rcases ofNanoseconds_eq_ok_iff.mp projected with ⟨other, otherSized, built⟩
      rw [sized] at otherSized
      rw [built, ← Option.some.inj otherSized]
      exact magnitudeOfNanoseconds_mul whole (Measure.nanoseconds_pos sized)

end Quantity

/-! ## Sequences of operations -/

/-- A value that is no quantity, or a quantity whose exact count is fresh. -/
def Value.Fresh : Value -> Prop
  | .quantity q => q.Fresh
  | _ => True

theorem Value.Countless.fresh {value : Value} (countless : value.Countless) : value.Fresh := by
  cases value with
  | quantity q => exact .of_none countless
  | number | boolean | instant | duration => exact trivial

/-- One operation: the values that it reads, and the value that it answers with. -/
inductive Answers : List Value -> Value -> Prop where
  | given {value : Value} (noQuantity : value.kind ≠ .quantity) : Answers [] value
  | plain (magnitude : Binary64) (unit : Measure) : Answers [] (.quantity (.plain magnitude unit))
  | named {magnitude : Binary64} {name : String} {q : Quantity}
      (ok : Quantity.ofName magnitude name = .ok q) : Answers [] (.quantity q)
  | projected {count : Int} {unit : Measure} {q : Quantity}
      (ok : Quantity.ofNanoseconds count unit = .ok q) : Answers [] (.quantity q)
  | converted {q r : Quantity} {unit : Measure} (ok : q.convert unit = .ok r) :
      Answers [.quantity q] (.quantity r)
  | appliedPlainly {operator : Operator} {a b answer : Value}
      (ok : applyPlain operator a b = .ok answer) : Answers [a, b] answer
  | convertedPlainly {a answer : Value} {unit : Measure} (ok : convertPlain a unit = .ok answer) :
      Answers [a] answer
  | applied {operator : Operator} {a b answer : Value}
      (ok : standard.apply operator a b = .ok answer) : Answers [a, b] answer
  | convertedByRegistry {a answer : Value} {unit : Measure}
      (ok : standard.convert a unit = .ok answer) : Answers [a] answer

/-- The values that a finite sequence of operations has obtained, the latest first.  An operation
reads only values that were obtained before it. -/
inductive Obtained : List Value -> Prop where
  | start : Obtained []
  | step {values operands : List Value} {answer : Value} (before : Obtained values)
      (known : operands ⊆ values) (answers : Answers operands answer) :
      Obtained (answer :: values)

theorem convertPlain_yields_fresh (value : Value) (unit : Measure) :
    Yields Value.Fresh (convertPlain value unit) := by
  cases value with
  | quantity q => exact (q.convert_yields_fresh unit).map fun _ fresh => fresh
  | number | boolean | instant | duration => exact .of_error _

theorem standard_apply_yields_fresh (operator : Operator) (a b : Value) :
    Yields Value.Fresh (standard.apply operator a b) := by
  by_cases supported : Registry.Supports operator a.kind b.kind
  · exact (Registry.handled_apply_of_supports supported).yields.weaken fun _ countless =>
      countless.fresh
  · rw [Registry.apply_of_not_supports supported]
    exact .of_error _

/-- The count of an instant is projected, and a duration is converted from a magnitude without a
count. -/
theorem standard_convert_yields_fresh (value : Value) (unit : Measure) :
    Yields Value.Fresh (standard.convert value unit) := by
  cases value with
  | instant i =>
      rw [Registry.convert_instant]
      exact (Quantity.ofNanoseconds_yields_fresh i.nanoseconds unit).map fun _ fresh => fresh
  | duration d =>
      rw [Registry.convert_duration]
      refine d.accepts_totalMilliseconds.yields.bind fun total _ => ?_
      exact ((Quantity.plain total .millisecond).convert_yields_fresh unit).map fun _ fresh => fresh
  | number | boolean | quantity =>
      rw [Registry.convert_of_not_time _ unit (by simp [Value.kind, Kind.timeKinds])]
      exact convertPlain_yields_fresh _ unit

/-- One operation answers with a fresh value, whatever it reads. -/
theorem Answers.fresh {operands : List Value} {answer : Value} (answers : Answers operands answer) :
    answer.Fresh := by
  cases answers with
  | given noQuantity =>
      cases answer with
      | quantity q => exact absurd rfl noQuantity
      | number | boolean | instant | duration => exact trivial
  | plain magnitude unit => exact Quantity.Fresh.of_none rfl
  | named ok => exact Quantity.ofName_yields_fresh _ _ _ ok
  | projected ok => exact Quantity.ofNanoseconds_yields_fresh _ _ _ ok
  | converted ok => exact Quantity.convert_yields_fresh _ _ _ ok
  | appliedPlainly ok => exact (applyPlain_yields_countless _ _ _ _ ok).fresh
  | convertedPlainly ok => exact convertPlain_yields_fresh _ _ _ ok
  | applied ok => exact standard_apply_yields_fresh _ _ _ _ ok
  | convertedByRegistry ok => exact standard_convert_yields_fresh _ _ _ ok

/-- All values that a sequence of operations obtains are fresh: the latest one by its operation, and
the earlier ones because they stay what they were. -/
theorem Obtained.fresh {values : List Value} (obtained : Obtained values) :
    ∀ value ∈ values, value.Fresh := by
  induction obtained with
  | start =>
      intro value impossible
      contradiction
  | step before known answers inductionHypothesis =>
      intro value listed
      rcases List.mem_cons.mp listed with rfl | earlier
      · exact answers.fresh
      · exact inductionHypothesis value earlier

/-- No operation leaves a stale count.  Whatever a sequence of operations obtains, a quantity with
an exact count is in a unit of time and is the projection of that count, with the same magnitude in
every bit.  Plain arithmetic answers without counts.  Where a quantity is written as a whole number,
arithmetic computes with that number rounded once, which no other number in the format is closer
to. -/
theorem obtained_counts_are_fresh :
    (∀ (values : List Value) (q : Quantity) (count : Int),
      Obtained values -> .quantity q ∈ values ->
      q.exactNanoseconds = some count -> q.unit.isTime = true ∧
        Quantity.ofNanoseconds count q.unit = .ok q) ∧
    (∀ (operator : Operator) (a b : Value) (q : Quantity),
      applyPlain operator a b = .ok (.quantity q) -> q.exactNanoseconds = none) ∧
    (∀ (values : List Value) (q : Quantity) (whole : Int),
      Obtained values -> .quantity q ∈ values ->
      q.exactIntegral? = some whole ->
        q.text = toString whole ++ " " ++ q.unit.name ∧
        (∀ engine : Engine,
          engine.format (.quantity q) = .ok (toString whole ++ " " ++ q.unit.name)) ∧
        q.value = Binary64.ofInt whole ∧
        q.value.Nearest (whole * Binary64.quantaPerOne) 1 ∧
        (whole.natAbs ≤ Nat.pow 2 127 -> q.value.isFinite = true)) := by
  refine ⟨?_, ?_, ?_⟩
  · intro values q count obtained listed counted
    have fresh : q.Fresh := obtained.fresh _ listed
    have projected := fresh count counted
    exact ⟨Quantity.isTime_of_projected projected, projected⟩
  · intro operator a b q answered
    exact applyPlain_yields_countless operator a b _ answered
  · intro values q whole obtained listed found
    have fresh : q.Fresh := obtained.fresh _ listed
    have texts := Quantity.text_of_exactIntegral? found
    have value := fresh.value_of_exactIntegral? found
    refine ⟨texts.1, fun engine => congrArg Except.ok texts.2, value, ?_, ?_⟩
    · rw [value]
      exact Binary64.ofInt_nearest whole
    · intro within
      rw [value]
      exact Binary64.isFinite_ofInt within

/-- One minute more than binary64 has room for is still written in full after a conversion, and
arithmetic computes with the even neighbour.  The sum of the quantity with itself has no count that
could pass for exact. -/
theorem minutes_beyond_precision_are_fresh :
    ∃ p q sum, Quantity.ofNanoseconds (9007199254740993 * 60000000000) .second = .ok p ∧
      p.convert .minute = .ok q ∧
      applyPlain .add (.quantity q) (.quantity q) = .ok (.quantity sum) ∧
      Obtained [.quantity sum, .quantity q, .quantity p] ∧
      q.text = "9007199254740993 min" ∧
      q.value = Binary64.ofInt 9007199254740992 ∧
      q.value.isFinite = true ∧
      Quantity.ofNanoseconds (9007199254740993 * 60000000000) q.unit = .ok q ∧
      sum.exactNanoseconds = none := by
  rcases obtained_counts_are_fresh with ⟨fresh, countless, written⟩
  have secondIsTime : Measure.second.isTime = true := rfl
  have minuteIsTime : Measure.minute.isTime = true := rfl
  rcases Quantity.exists_ofNanoseconds (9007199254740993 * 60000000000) secondIsTime
    with ⟨p, start⟩
  rcases Quantity.exists_ofNanoseconds (9007199254740993 * 60000000000) minuteIsTime
    with ⟨q, projected⟩
  have converted : p.convert .minute = .ok q := by
    rw [Quantity.convert_of_projected start minuteIsTime, projected]
  have magnitude : q.magnitudeIn q.unit = .ok q.value := by simp [Quantity.magnitudeIn]
  have added : applyPlain .add (.quantity q) (.quantity q) =
      .ok (.quantity (.plain (q.value + q.value) q.unit)) := by
    simp only [applyPlain, Arithmetic.onQuantities, magnitude]
    rfl
  have obtained := ((Obtained.start.step (by simp) (.projected start)).step (by simp)
    (.converted converted)).step (by simp) (.appliedPlainly added)
  have listed : Value.quantity q ∈
      [.quantity (.plain (q.value + q.value) q.unit), .quantity q, .quantity p] := by simp
  have whole : q.exactIntegral? = some 9007199254740993 :=
    (Quantity.exactIntegral?_of_projected_iff projected _).mpr ⟨60000000000, rfl, by decide⟩
  rcases written _ q _ obtained listed whole with ⟨text, _, value, _, finite⟩
  refine ⟨p, q, _, start, converted, added, obtained, ?_, ?_, finite (by decide), ?_,
    countless _ _ _ _ added⟩
  · rw [text, Quantity.unit_of_projected projected]
    decide +kernel
  · rw [value]
    decide +kernel
  · exact (fresh _ q _ obtained listed (Quantity.exactNanoseconds_of_projected projected)).2

end Chronometry
