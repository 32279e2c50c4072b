import Chronometry.Proofs.Order.Relations
import Chronometry.Proofs.Quantity.Magnitude

/-!
# The order of projected instants

The projections of two instants are compared by their magnitudes, of which many instants share one.
The comparison can therefore lose an order, and it does: a nanosecond is less than the distance
between two magnitudes today.  It never makes up an order or turns one round, because the magnitudes
are in the order of the instants.  Equality as values is another matter, since it goes by the exact
counts.
-/

namespace Chronometry

open Arithmetic Registry

theorem Instant.natAbs_nanoseconds_lt (i : Instant) : i.nanoseconds.natAbs < Nat.pow 2 69 := by
  have lower := i.lower_le
  have upper := i.le_upper
  change i.nanoseconds.natAbs < 590295810358705651712
  omega

namespace Quantity

variable {a b : Instant} {unit : Measure} {p q : Quantity}

/-- The magnitude of a projected instant stands at the position that belongs to its count. -/
theorem value_standsAt {size : Nat} (sized : unit.nanoseconds? = some size)
    (projected : ofNanoseconds a.nanoseconds unit = .ok p) :
    p.value.StandsAt (magnitudePosition a.nanoseconds size) := by
  rcases ofNanoseconds_eq_ok_iff.mp projected with ⟨other, same, rfl⟩
  rw [sized] at same
  cases same
  have within := Nat.le_trans (Nat.le_of_lt a.natAbs_nanoseconds_lt)
    (Nat.pow_le_pow_right (show 0 < 2 by decide) (show 69 ≤ 127 by decide))
  exact magnitude_standsAt (sized_of_nanoseconds? sized) within

/-- Quantities of one unit are ordered by their magnitudes. -/
theorem orderQuantities_of_unit_eq (same : q.unit = p.unit) :
    orderQuantities p q = orderNumbers p.value q.value := by
  have magnitude : q.magnitudeIn p.unit = .ok q.value := by simp [magnitudeIn, same]
  rw [orderQuantities, magnitude]
  rfl

theorem orderQuantities_of_projected {size : Nat} (sized : unit.nanoseconds? = some size)
    (left : ofNanoseconds a.nanoseconds unit = .ok p)
    (right : ofNanoseconds b.nanoseconds unit = .ok q) :
    orderQuantities p q =
      .ok (compare (magnitudePosition a.nanoseconds size)
        (magnitudePosition b.nanoseconds size)) := by
  have order := Binary64.order?_of_standsAt (value_standsAt sized left) (value_standsAt sized right)
  rw [orderQuantities_of_unit_eq (by rw [unit_of_projected left, unit_of_projected right]),
    orderNumbers, order]

/-- Magnitudes that differ are in the order of the instants. -/
theorem compare_magnitudePosition {size : Nat} (sized : unit.nanoseconds? = some size)
    (apart : magnitudePosition a.nanoseconds size ≠ magnitudePosition b.nanoseconds size ∨ a = b) :
    compare (magnitudePosition a.nanoseconds size) (magnitudePosition b.nanoseconds size) =
      a.order b := by
  have aWithin := a.natAbs_nanoseconds_lt
  have bWithin := b.natAbs_nanoseconds_lt
  rw [Instant.order]
  rcases Int.lt_trichotomy a.nanoseconds b.nanoseconds with earlier | same | later
  · have ordered := magnitudePosition_mono sized aWithin bWithin (Int.le_of_lt earlier)
    have different :=
      apart.resolve_right fun same => Int.ne_of_lt earlier (congrArg Instant.nanoseconds same)
    rw [Int.compare_eq_lt.mpr earlier,
      Int.compare_eq_lt.mpr (Int.lt_iff_le_and_ne.mpr ⟨ordered, different⟩)]
  · rw [same, Int.compare_eq_eq.mpr rfl, Int.compare_eq_eq.mpr rfl]
  · have ordered := magnitudePosition_mono sized bWithin aWithin (Int.le_of_lt later)
    have different :=
      apart.resolve_right fun same => Int.ne_of_lt later (congrArg Instant.nanoseconds same.symm)
    rw [Int.compare_eq_gt.mpr later,
      Int.compare_eq_gt.mpr (Int.lt_iff_le_and_ne.mpr ⟨ordered, Ne.symm different⟩)]

theorem apply_compare_of_ordered {order : Ordering} (ordered : orderQuantities p q = .ok order) :
    standard.apply .compare (.quantity p) (.quantity q) = .ok (.number (signOf order)) := by
  rw [apply_compare_eq, orderValues, ordered]
  rfl

theorem apply_relation_of_ordered (question : Relation) {order : Ordering}
    (ordered : orderQuantities p q = .ok order) :
    standard.apply (.relation question) (.quantity p) (.quantity q) =
      .ok (.boolean (question.holds order)) := by
  rw [apply_relation_eq question (by simp [Value.kind]), orderValues, ordered]
  rfl

theorem same_of_projected_iff (left : ofNanoseconds a.nanoseconds unit = .ok p)
    (right : ofNanoseconds b.nanoseconds unit = .ok q) :
    (Value.quantity p).same (.quantity q) = true ↔ a = b := by
  rw [Value.same, same, exactNanoseconds_of_projected left, exactNanoseconds_of_projected right,
    unit_of_projected left, unit_of_projected right, Instant.eq_iff]
  simp only [beq_self_eq_true, Bool.true_and, beq_iff_eq]

end Quantity

/-- Two instants that are projected into a unit of time keep their order or lose it, and nothing
else.  The projections are equal as values exactly when the instants are the same.  If their
magnitudes are one number they compare as equal; if not, or if the instants are the same, every
question about their order is answered as for the instants.  The magnitudes are different numbers as
soon as the instants are further apart than one part in `2 ^ 51` of their distances from the
epoch. -/
theorem projection_keeps_or_loses_order (a b : Instant) {unit : Measure}
    (time : unit.isTime = true) :
    ∃ p q : Quantity,
      standard.convert (.instant a) unit = .ok (.quantity p) ∧
      standard.convert (.instant b) unit = .ok (.quantity q) ∧
      ((Value.quantity p).same (.quantity q) = true ↔ a = b) ∧
      (p.value.sameValue q.value = true ->
        standard.apply .compare (.quantity p) (.quantity q) = .ok (.number 0) ∧
          standard.apply (.relation .equal) (.quantity p) (.quantity q) = .ok (.boolean true)) ∧
      (p.value.sameValue q.value = false ∨ a = b ->
        ∀ operator : Operator, operator = .compare ∨ operator.isRelation = true ->
          standard.apply operator (.quantity p) (.quantity q) =
            standard.apply operator (.instant a) (.instant b)) ∧
      (a.nanoseconds.natAbs + b.nanoseconds.natAbs <
        Nat.pow 2 51 * (a.nanoseconds - b.nanoseconds).natAbs ->
        p.value.sameValue q.value = false) := by
  rcases unit.isTime_iff.mp time with ⟨size, sized⟩
  rcases Quantity.exists_ofNanoseconds a.nanoseconds time with ⟨p, left⟩
  rcases Quantity.exists_ofNanoseconds b.nanoseconds time with ⟨q, right⟩
  have sameValue_iff := Binary64.sameValue_of_standsAt_iff (Quantity.value_standsAt sized left)
    (Quantity.value_standsAt sized right)
  have ordered := Quantity.orderQuantities_of_projected sized left right
  refine ⟨p, q, ?_, ?_, Quantity.same_of_projected_iff left right, ?_, ?_, ?_⟩
  · rw [convert_instant, left]
    rfl
  · rw [convert_instant, right]
    rfl
  · intro same
    rw [sameValue_iff.mp same, Int.compare_eq_eq.mpr rfl] at ordered
    have compared := Quantity.apply_compare_of_ordered ordered
    exact ⟨compared, Quantity.apply_relation_of_ordered .equal ordered⟩
  · intro apart operator asks
    have different : Quantity.magnitudePosition a.nanoseconds size ≠
        Quantity.magnitudePosition b.nanoseconds size ∨
        a = b := by
      refine apart.imp_left fun unlike same => ?_
      rw [sameValue_iff.mpr same] at unlike
      contradiction
    rw [Quantity.compare_magnitudePosition sized different] at ordered
    rcases operator with _ | _ | _ | _ | _ | question | _
    case compare => rw [Quantity.apply_compare_of_ordered ordered, apply_compare_instants]
    case relation =>
      rw [Quantity.apply_relation_of_ordered question ordered, apply_relation_instants]
    all_goals exact absurd asks (by decide)
  · intro apart
    rw [← Bool.not_eq_true, sameValue_iff]
    intro same
    have close :=
      Quantity.distance_le_of_magnitudePosition_eq (Quantity.sized_of_nanoseconds? sized) same
    exact Nat.not_lt.mpr close apart

/-- Today a millisecond is enough to keep the order, even in centuries. -/
theorem millisecond_apart_keeps_order :
    ∃ p q : Quantity,
      standard.convert (.instant ⟨1704067200000000000, by decide, by decide⟩) .century =
        .ok (.quantity p) ∧
      standard.convert (.instant ⟨1704067200001000000, by decide, by decide⟩) .century =
        .ok (.quantity q) ∧
      standard.apply .compare (.quantity p) (.quantity q) = .ok (.number (-1)) ∧
      (Value.quantity p).same (.quantity q) = false := by
  rcases projection_keeps_or_loses_order ⟨1704067200000000000, by decide, by decide⟩
    ⟨1704067200001000000, by decide, by decide⟩ (show Measure.century.isTime = true from rfl) with
    ⟨p, q, left, right, same, _, agree, apart⟩
  refine ⟨p, q, left, right, ?_, ?_⟩
  · rw [agree (Or.inl (apart (by decide))) .compare (Or.inl rfl)]
    decide +kernel
  · rw [← Bool.not_eq_true, same]
    decide

/-- A nanosecond is not enough, even in nanoseconds: the two magnitudes are one number. -/
theorem nanosecond_apart_loses_order :
    ∃ p q : Quantity,
      standard.convert (.instant ⟨1704067200000000000, by decide, by decide⟩) .nanosecond =
        .ok (.quantity p) ∧
      standard.convert (.instant ⟨1704067200000000001, by decide, by decide⟩) .nanosecond =
        .ok (.quantity q) ∧
      standard.apply .compare (.quantity p) (.quantity q) = .ok (.number 0) ∧
      standard.apply .compare (.instant ⟨1704067200000000000, by decide, by decide⟩)
        (.instant ⟨1704067200000000001, by decide, by decide⟩) = .ok (.number (-1)) ∧
      standard.apply (.relation .equal) (.quantity p) (.quantity q) = .ok (.boolean true) ∧
      standard.apply (.relation .equal) (.instant ⟨1704067200000000000, by decide, by decide⟩)
        (.instant ⟨1704067200000000001, by decide, by decide⟩) = .ok (.boolean false) ∧
      (Value.quantity p).same (.quantity q) = false := by
  refine ⟨_, _, rfl, rfl, ?_, ?_, ?_, ?_, ?_⟩
  all_goals decide +kernel

end Chronometry
