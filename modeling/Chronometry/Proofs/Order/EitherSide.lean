import Chronometry.Proofs.Order.Transitivity
import Chronometry.Proofs.Quantity.BaseMagnitude

/-!
# Comparing from either side

The plain arithmetic compares two quantities in the unit of the left one, so that one order of the
operands converts one of them and the other order converts the other.  The two comparisons look at
different pairs of rounded numbers, and amounts that differ little or not at all may be told apart
in one of them alone, or even be found greater than each other.  Neither comparison goes against the
base magnitudes, though: where these are different numbers, an answer other than zero is their
order.  And the answers are opposite whenever the amounts can be discerned, because then both of
them give the order of the exact amounts.
-/

namespace Chronometry

open Arithmetic Binary64

/-- The relation that asks the same question with the operands exchanged. -/
def Relation.converse : Relation -> Relation
  | .larger => .smaller
  | .largerEq => .smallerEq
  | .smaller => .larger
  | .smallerEq => .largerEq
  | .equal => .equal
  | .unequal => .unequal

theorem Relation.holds_converse (question : Relation) (order : Ordering) :
    question.converse.holds order.swap = question.holds order := by
  cases question <;> cases order <;> rfl

/-- Plain arithmetic finds two values in an order: the comparison answers with it, and so does every
relation. -/
def Arithmetic.FindsOrder (a b : Value) (order : Ordering) : Prop :=
  applyPlain .compare a b = .ok (.number (signOf order)) ∧
    ∀ question : Relation,
      applyPlain (.relation question) a b = .ok (.boolean (question.holds order))

theorem Arithmetic.FindsOrder.converse {a b : Value} {order : Ordering}
    (forward : FindsOrder a b order) (backward : FindsOrder b a order.swap) (question : Relation) :
    applyPlain (.relation question.converse) b a = applyPlain (.relation question) a b := by
  rw [forward.2, backward.2, question.holds_converse]

theorem Binary64.order?_comm (x y : Binary64) : x.order? y = (y.order? x).map Ordering.swap := by
  unfold order?
  cases x.position? <;> cases y.position? <;>
    simp only [Option.map_none, Option.map_some, Int.compare_swap]

namespace Quantity

variable {x y : Quantity} {p q : Int} {order : Ordering}

/-- The magnitude of a quantity in the base unit of its dimension, rounded once. -/
def base (q : Quantity) : Binary64 :=
  q.value * q.unit.factor

/-- The exact amount of a quantity, in quanta of quanta of the base unit. -/
def extent (q : Quantity) : Int :=
  q.value.position?.getD 0 * q.unit.quanta

/-- The base magnitude of a quantity is its exact amount. -/
def ExactBase (q : Quantity) : Prop :=
  ∃ position, q.base.StandsAt position ∧ position * quantaPerOne = q.extent

/-- Two amounts can be told apart, or found equal, from either side. -/
inductive Discernible (x y : Quantity) : Prop where
  /-- Quantities of one unit are not converted. -/
  | sameUnit (same : x.unit = y.unit)
  /-- Nothing is rounded on the way to the base unit, and the amounts are equal or differ by more
  than half a quantum of the larger unit. -/
  | exact (left : x.ExactBase) (right : y.ExactBase)
      (apart : x.extent = y.extent ∨
        max x.unit.quanta y.unit.quanta < 2 * (x.extent - y.extent).natAbs)
  /-- The amounts do not lie beyond one limit, and differ by one part in `2 ^ 52` of the greater one
  and a quantum of the larger unit. -/
  | apart (unlike : x.base.sameValue y.base = false)
      (far :
        max x.extent.natAbs y.extent.natAbs + Nat.pow 2 52 * max x.unit.quanta y.unit.quanta ≤
        Nat.pow 2 52 * (x.extent - y.extent).natAbs)

theorem Discernible.symm (discernible : x.Discernible y) : y.Discernible x := by
  have distance : (y.extent - x.extent).natAbs = (x.extent - y.extent).natAbs := by omega
  cases discernible with
  | sameUnit same => exact .sameUnit same.symm
  | exact left right apart =>
      refine .exact right left (apart.imp Eq.symm fun far => ?_)
      rwa [Nat.max_comm, distance]
  | apart unlike far =>
      refine .apart (by rwa [sameValue_comm]) ?_
      rwa [Nat.max_comm, Nat.max_comm y.unit.quanta, distance]

theorem extent_eq (standing : x.value.StandsAt p) : x.extent = p * x.unit.quanta := by
  rw [extent, standing.2, Option.getD_some]

theorem order?_base (left : x.value.StandsAt p) (right : y.value.StandsAt q) :
    x.base.order? y.base =
      some (compare (basePosition p x.unit.quanta) (basePosition q y.unit.quanta)) := by
  rw [order?, base, base, position?_base left, position?_base right]

theorem basePosition_ne_iff (left : x.value.StandsAt p) (right : y.value.StandsAt q) :
    x.base.sameValue y.base = false ↔
      basePosition p x.unit.quanta ≠ basePosition q y.unit.quanta := by
  rw [sameValue, order?_base left right, beq_eq_false_iff_ne, ne_eq, Option.some_inj,
    Int.compare_eq_eq]

/-- A quantity whose amount is not rounded has a finite base magnitude. -/
theorem ExactBase.position_eq (exact : x.ExactBase) (standing : x.value.StandsAt p) :
    (basePosition p x.unit.quanta).natAbs < quantaLimit ∧
      basePosition p x.unit.quanta * quantaPerOne = p * x.unit.quanta := by
  rcases exact with ⟨position, baseStanding, amount⟩
  have found : x.base.position? = some (basePosition p x.unit.quanta) := position?_base standing
  have same : position = basePosition p x.unit.quanta :=
    Option.some.inj (baseStanding.2.symm.trans found)
  rw [← same, ← extent_eq standing]
  exact ⟨baseStanding.natAbs_lt, amount⟩

/-- Where the magnitude of the right quantity stands in the unit of the left one. -/
def rightPosition (x y : Quantity) (position : Int) : Int :=
  if y.unit = x.unit then position else fromBase (basePosition position y.unit.quanta) x.unit.quanta

theorem exists_magnitudeIn (dimension : x.unit.dimension = y.unit.dimension)
    (right : y.value.StandsAt q) :
    ∃ z, y.magnitudeIn x.unit = .ok z ∧ z.position? = some (rightPosition x y q) := by
  rw [magnitudeIn, if_neg (fun differ => differ dimension.symm), rightPosition]
  by_cases same : y.unit = x.unit
  · rw [if_pos same, if_pos same]
    exact ⟨_, rfl, right.2⟩
  · rw [if_neg same, if_neg same]
    exact ⟨_, rfl, position?_converted right⟩

theorem orderQuantities_eq (dimension : x.unit.dimension = y.unit.dimension)
    (left : x.value.StandsAt p) (right : y.value.StandsAt q) :
    orderQuantities x y = .ok (compare p (rightPosition x y q)) := by
  rcases exists_magnitudeIn dimension right with ⟨z, converted, found⟩
  have order : x.value.order? z = some (compare p (rightPosition x y q)) := by
    rw [order?, left.2, found]
  rw [orderQuantities, converted]
  change orderNumbers x.value z = _
  rw [orderNumbers, order]

/-- A comparison that does not go against an order loses it or gives it. -/
theorem compare_eq_or {m n a b : Int} (different : a ≠ b) (less : m < n -> a ≤ b)
    (greater : n < m -> b ≤ a) :
    compare m n = .eq ∨ some (compare a b) = some (compare m n) := by
  rcases Int.lt_trichotomy m n with below | same | above
  · right
    have := less below
    rw [Int.compare_eq_lt.mpr below, Int.compare_eq_lt.mpr (by omega)]
  · exact Or.inl (Int.compare_eq_eq.mpr same)
  · right
    have := greater above
    rw [Int.compare_eq_gt.mpr above, Int.compare_eq_gt.mpr (by omega)]

/-- A comparison does not go against the base magnitudes. -/
theorem compare_rightPosition_eq_or (left : x.value.StandsAt p) (right : y.value.StandsAt q)
    (unlike : x.base.sameValue y.base = false) :
    compare p (rightPosition x y q) = .eq ∨
      x.base.order? y.base = some (compare p (rightPosition x y q)) := by
  rw [order?_base left right]
  apply compare_eq_or ((basePosition_ne_iff left right).mp unlike)
  all_goals
    intro less
    unfold rightPosition at less
    split at less
  case less.isTrue same => exact same ▸ basePosition_mono (Int.le_of_lt less)
  case greater.isTrue same => exact same ▸ basePosition_mono (Int.le_of_lt less)
  case less.isFalse =>
    exact basePosition_le_of_lt_fromBase left.kept left.natAbs_lt x.unit.quanta_pos less
  case greater.isFalse =>
    exact le_basePosition_of_fromBase_lt left.kept left.natAbs_lt x.unit.quanta_pos less

/-- A comparison of discernible amounts gives their order. -/
theorem compare_rightPosition_of_discernible (left : x.value.StandsAt p)
    (right : y.value.StandsAt q) (discernible : x.Discernible y) :
    compare p (rightPosition x y q) = compare x.extent y.extent := by
  unfold rightPosition
  by_cases same : y.unit = x.unit
  · rw [if_pos same, extent_eq left, extent_eq right, same,
      compare_mul_right p q x.unit.quanta_pos]
  · rw [if_neg same]
    cases discernible with
    | sameUnit one => exact absurd one.symm same
    | exact exactLeft exactRight apart =>
        rcases exactLeft.position_eq left with ⟨_, leftAmount⟩
        rcases exactRight.position_eq right with ⟨finite, rightAmount⟩
        rw [extent_eq left, extent_eq right] at apart ⊢
        exact compare_fromBase_of_exact left.kept x.unit.quanta_pos finite leftAmount rightAmount
          (apart.imp_right (Nat.lt_of_le_of_lt (Nat.le_max_left _ _)))
    | apart unlike far =>
        rw [extent_eq left, extent_eq right] at far ⊢
        apply compare_fromBase_of_apart left.natAbs_lt x.unit.quantaPerOne_le_quanta
          ((basePosition_ne_iff left right).mp unlike)
        -- The greater amount and the larger unit bound those of either side.
        simp only [Nat.pow_eq] at *
        omega

theorem findsOrder_of_orderQuantities (ordered : orderQuantities x y = .ok order) :
    FindsOrder (.quantity x) (.quantity y) order := by
  constructor
  · rw [applyPlain, onQuantities, ordered]
    rfl
  · intro question
    rw [applyPlain, onQuantities, ordered]
    rfl

end Quantity

/-- Any two quantities of one dimension with finite magnitudes are compared from either side.  Where
their base magnitudes are different numbers, both comparisons give the order of these or zero.
Discernible amounts are found in their own order from either side, so that the two answers are
opposite and every relation holds exactly when its converse does with the operands exchanged. -/
theorem opposite_answers_when_discernible (x y : Quantity)
    (dimension : x.unit.dimension = y.unit.dimension) (left : x.value.isFinite = true)
    (right : y.value.isFinite = true) :
    ∃ forward backward : Ordering,
      FindsOrder (.quantity x) (.quantity y) forward ∧
      FindsOrder (.quantity y) (.quantity x) backward ∧
      (x.base.sameValue y.base = false ->
        (forward = .eq ∨ x.base.order? y.base = some forward) ∧
          (backward = .eq ∨ x.base.order? y.base = some backward.swap)) ∧
      (x.Discernible y ->
        forward = compare x.extent y.extent ∧ backward = forward.swap ∧
          ∀ question : Relation,
            applyPlain (.relation question.converse) (.quantity y) (.quantity x) =
              applyPlain (.relation question) (.quantity x) (.quantity y)) := by
  rcases exists_standsAt left with ⟨p, leftStanding⟩
  rcases exists_standsAt right with ⟨q, rightStanding⟩
  have forward := Quantity.findsOrder_of_orderQuantities
    (Quantity.orderQuantities_eq dimension leftStanding rightStanding)
  have backward := Quantity.findsOrder_of_orderQuantities
    (Quantity.orderQuantities_eq dimension.symm rightStanding leftStanding)
  refine ⟨_, _, forward, backward, ?_, ?_⟩
  · intro unlike
    refine ⟨Quantity.compare_rightPosition_eq_or leftStanding rightStanding unlike, ?_⟩
    have mirrored :=
      Quantity.compare_rightPosition_eq_or rightStanding leftStanding (by rwa [sameValue_comm])
    refine mirrored.imp_right fun found => ?_
    rw [order?_comm, found, Option.map_some]
  · intro discernible
    have found :=
      Quantity.compare_rightPosition_of_discernible leftStanding rightStanding discernible
    have mirrored :=
      Quantity.compare_rightPosition_of_discernible rightStanding leftStanding discernible.symm
    have opposite : compare q (Quantity.rightPosition y x p) =
        (compare p (Quantity.rightPosition x y q)).swap := by
      rw [found, mirrored, Int.compare_swap]
    exact ⟨found, opposite, forward.converse (opposite ▸ backward)⟩

/-- An hour and a half is longer than 89 minutes, and 89 minutes are shorter than an hour and a
half: the products with the sizes of the units are exact. -/
theorem hour_and_half_from_either_side :
    FindsOrder (.quantity (.plain (ofDecimal false 15 (-1)) .hour))
      (.quantity (.plain 89 .minute)) .gt ∧
      FindsOrder (.quantity (.plain 89 .minute))
        (.quantity (.plain (ofDecimal false 15 (-1)) .hour)) .lt := by
  have exactHours : (Quantity.plain (ofDecimal false 15 (-1)) .hour).ExactBase :=
    ⟨5400000000000 * quantaPerOne, by decide +kernel, by decide +kernel⟩
  have exactMinutes : (Quantity.plain 89 .minute).ExactBase :=
    ⟨5340000000000 * quantaPerOne, by decide +kernel, by decide +kernel⟩
  rcases opposite_answers_when_discernible (.plain (ofDecimal false 15 (-1)) .hour)
    (.plain 89 .minute) (by decide) (by decide +kernel) (by decide +kernel)
    with ⟨forward, backward, longer, shorter, _, opposite⟩
  rcases opposite (.exact exactHours exactMinutes (Or.inr (by decide +kernel)))
    with ⟨found, mirrored, _⟩
  have greater : forward = .gt := by
    rw [found]
    decide +kernel
  rw [greater] at longer mirrored
  rw [mirrored] at shorter
  exact ⟨longer, shorter⟩

/-- A count of tenths of a century, as a quantity of centuries. -/
def tenthsOfCentury (count : Nat) : Quantity :=
  .plain (ofDecimal false count (-1)) .century

def decades (count : Nat) : Quantity :=
  .plain (ofInt count) .decade

/-- Amounts that cannot be discerned are not always compared alike.  97.5 centuries and 975 decades
are one amount, and each of them is found larger than the other.  Seven decades are longer than 0.7
centuries, because the number nearest to 0.7 is below seven tenths, but they are found longer from
the left side alone. -/
theorem larger_than_each_other :
    (∀ count ∈ [7, 975], (tenthsOfCentury count).unit.dimension = (decades count).unit.dimension ∧
      (tenthsOfCentury count).value.isFinite = true ∧ (decades count).value.isFinite = true) ∧
      applyPlain .compare (.quantity (tenthsOfCentury 975)) (.quantity (decades 975)) =
        .ok (.number 1) ∧
      applyPlain .compare (.quantity (decades 975)) (.quantity (tenthsOfCentury 975)) =
        .ok (.number 1) ∧
      applyPlain (.relation .larger) (.quantity (tenthsOfCentury 975)) (.quantity (decades 975)) =
        .ok (.boolean true) ∧
      applyPlain (.relation .smaller) (.quantity (decades 975)) (.quantity (tenthsOfCentury 975)) =
        .ok (.boolean false) ∧
      applyPlain (.relation .equal) (.quantity (tenthsOfCentury 7)) (.quantity (decades 7)) =
        .ok (.boolean true) ∧
      applyPlain (.relation .equal) (.quantity (decades 7)) (.quantity (tenthsOfCentury 7)) =
        .ok (.boolean false) := by
  decide +kernel

end Chronometry
