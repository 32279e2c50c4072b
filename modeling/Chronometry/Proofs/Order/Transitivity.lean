import Chronometry.Proofs.Order.Equality
import Chronometry.Proofs.Quantity.FreshCount
import Chronometry.Proofs.Quantity.Magnitude

/-!
# How far equality carries

Equality of values is symmetric.  Whether it carries over, from two values to a third that is equal
to the second, is a question about quantities alone.  Two quantities that know their exact counts
are compared by these; where one of them does not, they are compared by magnitude, and many counts
share one magnitude.  So a quantity without a count may be equal to two quantities whose counts
differ.

This is the only way in which equality fails to carry over between quantities whose magnitudes
belong to their counts, and the counts are then so close that binary64 does not tell them apart.  A
magnitude that does not belong to its count could part equal quantities too; no operation leaves
one.
-/

namespace Chronometry

namespace Binary64

variable {x y z : Binary64}

/-- Numbers are equal by value when they stand at one position. -/
theorem sameValue_eq_true_iff (x y : Binary64) :
    x.sameValue y = true ↔ ∃ p, x.position? = some p ∧ y.position? = some p := by
  unfold sameValue order?
  cases x.position? with
  | none => simp
  | some p =>
      cases y.position? with
      | none => simp
      | some q =>
          simp only [beq_iff_eq, Option.some_inj, Int.compare_eq_eq]
          constructor
          · rintro rfl
            exact ⟨p, rfl, rfl⟩
          · rintro ⟨position, left, right⟩
            exact left.trans right.symm

theorem sameValue_comm (x y : Binary64) : x.sameValue y = y.sameValue x := by
  rw [Bool.eq_iff_iff, sameValue_eq_true_iff, sameValue_eq_true_iff]
  simp only [and_comm]

theorem sameValue_trans (first : x.sameValue y = true) (second : y.sameValue z = true) :
    x.sameValue z = true := by
  rcases (sameValue_eq_true_iff x y).mp first with ⟨p, left, middle⟩
  rcases (sameValue_eq_true_iff y z).mp second with ⟨q, middleToo, right⟩
  have same : p = q := Option.some.inj (middle.symm.trans middleToo)
  exact (sameValue_eq_true_iff x z).mpr ⟨p, left, same ▸ right⟩

/-- What is equal to something is a number, and equal to itself. -/
theorem sameValue_self (same : x.sameValue y = true) : x.sameValue x = true :=
  sameValue_trans same (sameValue_comm x y ▸ same)

end Binary64

namespace Quantity

variable {q r s : Quantity} {m n : Int}

theorem same_iff_of_counts (left : q.exactNanoseconds = some m)
    (right : r.exactNanoseconds = some n) :
    q.same r = true ↔ q.unit = r.unit ∧ m = n := by
  simp [same, left, right]

theorem same_iff_of_no_count (uncounted : q.exactNanoseconds = none ∨ r.exactNanoseconds = none) :
    q.same r = true ↔ q.unit = r.unit ∧ q.value.sameValue r.value = true := by
  unfold same
  rcases uncounted with none | none
  · simp [none]
  · cases q.exactNanoseconds <;> simp [none]

theorem same_comm (q r : Quantity) : q.same r = r.same q := by
  unfold same
  rw [Binary64.sameValue_comm, BEq.comm]
  cases q.exactNanoseconds <;> cases r.exactNanoseconds
  case some.some m n =>
    exact congrArg (r.unit == q.unit && ·) BEq.comm
  all_goals rfl

theorem unit_eq_of_same (same : q.same r = true) : q.unit = r.unit := by
  unfold Quantity.same at same
  rw [Bool.and_eq_true, beq_iff_eq] at same
  exact same.1

/-- A quantity without an exact count stands between two quantities with different ones. -/
def Bridges (r q s : Quantity) : Prop :=
  r.exactNanoseconds = none ∧
    ∃ m n, q.exactNanoseconds = some m ∧ s.exactNanoseconds = some n ∧ m ≠ n

/-- Two quantities have one exact count and different magnitudes beside it. -/
def Contradicts (q r : Quantity) : Prop :=
  (∃ count, q.exactNanoseconds = some count ∧ r.exactNanoseconds = some count) ∧
    q.value.sameValue r.value = false

/-- What keeps equality from carrying over from one quantity through another to a third: the second
one knows no count where the others know two, or it is equal to one neighbour by count and to the
other by a magnitude that its equal in count does not have. -/
def Parts (r q s : Quantity) : Prop :=
  r.Bridges q s ∨ s.exactNanoseconds = none ∧ q.Contradicts r ∨ q.exactNanoseconds = none ∧
    s.Contradicts r

theorem Parts.symm (parts : r.Parts q s) : r.Parts s q := by
  rcases parts with ⟨none, m, n, left, right, differ⟩ | onRight | onLeft
  · exact Or.inl ⟨none, n, m, right, left, Ne.symm differ⟩
  · exact Or.inr (Or.inr onRight)
  · exact Or.inr (Or.inl onLeft)

/-- Through a quantity without a count equality carries a magnitude, which two counts can
overrule. -/
theorem same_trans_iff_of_no_count (middle : r.exactNanoseconds = none) (first : q.same r = true)
    (second : r.same s = true) : q.same s = true ↔ ¬r.Parts q s := by
  have unit := (unit_eq_of_same first).trans (unit_eq_of_same second)
  have magnitude := Binary64.sameValue_trans ((same_iff_of_no_count (Or.inr middle)).mp first).2
    ((same_iff_of_no_count (Or.inl middle)).mp second).2
  cases left : q.exactNanoseconds with
  | none =>
      rw [same_iff_of_no_count (Or.inl left)]
      simp [Parts, Bridges, Contradicts, unit, magnitude, left, middle]
  | some m =>
      cases right : s.exactNanoseconds with
      | none =>
          rw [same_iff_of_no_count (Or.inr right)]
          simp [Parts, Bridges, Contradicts, unit, magnitude, left, middle, right]
      | some n =>
          rw [same_iff_of_counts left right]
          simp [Parts, Bridges, unit, left, middle, right]

/-- Through a quantity with a count equality carries that count, which a neighbour without one
cannot see. -/
theorem same_trans_iff_of_count {count : Int} (middle : r.exactNanoseconds = some count)
    (left : q.exactNanoseconds = none) (first : q.same r = true) (second : r.same s = true) :
    q.same s = true ↔ ¬r.Parts q s := by
  have unit := (unit_eq_of_same first).trans (unit_eq_of_same second)
  have magnitude := ((same_iff_of_no_count (Or.inl left)).mp first).2
  rw [same_iff_of_no_count (Or.inl left), and_iff_right unit]
  cases right : s.exactNanoseconds with
  | none =>
      have onward :=
        Binary64.sameValue_trans magnitude ((same_iff_of_no_count (Or.inr right)).mp second).2
      simp [Parts, Bridges, Contradicts, onward, left, middle, right]
  | some n =>
      obtain rfl := ((same_iff_of_counts middle right).mp second).2
      have across : q.value.sameValue s.value = true ↔ s.value.sameValue r.value = true := by
        constructor
        · intro same
          exact Binary64.sameValue_trans (Binary64.sameValue_comm q.value s.value ▸ same) magnitude
        · intro same
          exact Binary64.sameValue_trans magnitude (Binary64.sameValue_comm s.value r.value ▸ same)
      simp [Parts, Bridges, Contradicts, across, left, middle, right]

/-- Equality carries over unless one of these ways of parting is in place. -/
theorem same_trans_iff (first : q.same r = true) (second : r.same s = true) :
    q.same s = true ↔ ¬r.Parts q s := by
  cases middle : r.exactNanoseconds with
  | none => exact same_trans_iff_of_no_count middle first second
  | some count =>
      cases left : q.exactNanoseconds with
      | none => exact same_trans_iff_of_count middle left first second
      | some m =>
          cases right : s.exactNanoseconds with
          | none =>
              -- The mirror image of a first quantity without a count.
              have mirrored := same_trans_iff_of_count middle right (same_comm r s ▸ second)
                (same_comm q r ▸ first)
              rw [same_comm, mirrored]
              exact not_congr ⟨Parts.symm, Parts.symm⟩
          | some n =>
              have units := ((same_iff_of_counts left middle).mp first).2.trans
                ((same_iff_of_counts middle right).mp second).2
              have unit := (unit_eq_of_same first).trans (unit_eq_of_same second)
              rw [same_iff_of_counts left right]
              simp [Parts, Bridges, unit, units, left, middle, right]

/-! ## Fresh counts -/

/-- Fresh quantities that are equal by their counts are one quantity. -/
theorem Fresh.eq_of_same (qFresh : q.Fresh) (rFresh : r.Fresh) (left : q.exactNanoseconds = some m)
    (right : r.exactNanoseconds = some n) (same : q.same r = true) : q = r := by
  rcases (same_iff_of_counts left right).mp same with ⟨unit, rfl⟩
  have projected := qFresh m left
  rw [unit, rFresh m right] at projected
  exact (Except.ok.inj projected).symm

/-- A fresh quantity does not contradict its equal in count, unless that one has no number for a
magnitude. -/
theorem Fresh.not_contradicts (qFresh : q.Fresh) (rFresh : r.Fresh) (same : q.same r = true)
    (number : r.value.sameValue r.value = true) : ¬q.Contradicts r := by
  rintro ⟨⟨count, left, right⟩, differ⟩
  rw [qFresh.eq_of_same rFresh left right same, number] at differ
  contradiction

/-- Between fresh quantities there is one way of parting. -/
theorem parts_iff_bridges (qFresh : q.Fresh) (rFresh : r.Fresh) (sFresh : s.Fresh)
    (first : q.same r = true) (second : r.same s = true) :
    r.Parts q s ↔ r.Bridges q s := by
  constructor
  · rintro (bridges | ⟨right, contradicts⟩ | ⟨left, contradicts⟩)
    · exact bridges
    · have onward := ((same_iff_of_no_count (Or.inr right)).mp second).2
      exact absurd contradicts
        (qFresh.not_contradicts rFresh first (Binary64.sameValue_self onward))
    · have backward := ((same_iff_of_no_count (Or.inr left)).mp (same_comm q r ▸ first)).2
      exact absurd contradicts
        (sFresh.not_contradicts rFresh (same_comm r s ▸ second) (Binary64.sameValue_self backward))
  · exact Or.inl

/-- Counts that a magnitude makes equal are close together, as seen from zero.  A count fits a
signed word of 128 bits. -/
theorem Bridges.close (bridges : r.Bridges q s) (qFresh : q.Fresh) (sFresh : s.Fresh)
    (first : q.same r = true) (second : r.same s = true) (left : q.exactNanoseconds = some m)
    (right : s.exactNanoseconds = some n) (mFits : m.natAbs ≤ Nat.pow 2 127)
    (nFits : n.natAbs ≤ Nat.pow 2 127) :
    Nat.pow 2 51 * (m - n).natAbs ≤ m.natAbs + n.natAbs := by
  have unit := (unit_eq_of_same first).trans (unit_eq_of_same second)
  have magnitude := Binary64.sameValue_trans ((same_iff_of_no_count (Or.inr bridges.1)).mp first).2
    ((same_iff_of_no_count (Or.inl bridges.1)).mp second).2
  rcases ofNanoseconds_eq_ok_iff.mp (qFresh m left) with ⟨size, sized, qBuilt⟩
  rcases ofNanoseconds_eq_ok_iff.mp (sFresh n right) with ⟨other, otherSized, sBuilt⟩
  rw [unit, otherSized] at sized
  cases sized
  rw [qBuilt, sBuilt] at magnitude
  have known := sized_of_nanoseconds? otherSized
  exact distance_le_of_magnitudePosition_eq known
    ((Binary64.sameValue_of_standsAt_iff (magnitude_standsAt known mFits)
      (magnitude_standsAt known nFits)).mp magnitude)

end Quantity

namespace Value

variable {x y z : Value}

theorem same_comm (x y : Value) : x.same y = y.same x := by
  cases x <;> cases y
  case number.number x y => exact x.sameValue_comm y
  case boolean.boolean x y => exact BEq.comm
  case quantity.quantity q r => exact q.same_comm r
  case instant.instant a b => exact BEq.comm
  case duration.duration d e =>
    rw [Bool.eq_iff_iff, same_duration_iff, same_duration_iff, eq_comm (a := d.length)]
    exact and_left_comm
  all_goals rfl

/-- Three quantities of which the second parts the first from the third. -/
def Parted : Value -> Value -> Value -> Prop
  | .quantity q, .quantity r, .quantity s => r.Parts q s
  | _, _, _ => False

theorem same_trans_iff (first : x.same y = true) (second : y.same z = true) :
    x.same z = true ↔ ¬Parted x y z := by
  cases x <;> cases y
  case number.number x y =>
    cases z
    case number z => exact iff_of_true (Binary64.sameValue_trans first second) not_false
    all_goals exact absurd second Bool.false_ne_true
  case boolean.boolean x y =>
    cases z
    case boolean z => exact iff_of_true (BEq.trans first second) not_false
    all_goals exact absurd second Bool.false_ne_true
  case quantity.quantity q r =>
    cases z
    case quantity s => exact Quantity.same_trans_iff first second
    all_goals exact absurd second Bool.false_ne_true
  case instant.instant a b =>
    cases z
    case instant c => exact iff_of_true (BEq.trans first second) not_false
    all_goals exact absurd second Bool.false_ne_true
  case duration.duration d e =>
    cases z
    case duration f =>
      rcases (same_duration_iff d e).mp first with ⟨left, _, length⟩
      rcases (same_duration_iff e f).mp second with ⟨_, right, lengthToo⟩
      exact iff_of_true
        ((same_duration_iff d f).mpr ⟨left, right, length.trans lengthToo⟩) not_false
    all_goals exact absurd second Bool.false_ne_true
  all_goals exact absurd first Bool.false_ne_true

/-- Fresh values are parted by a quantity that bridges two counts, and by nothing else. -/
theorem parted_iff_of_fresh (xFresh : x.Fresh) (yFresh : y.Fresh) (zFresh : z.Fresh)
    (first : x.same y = true) (second : y.same z = true) :
    Parted x y z ↔
      ∃ q r s, x = .quantity q ∧ y = .quantity r ∧ z = .quantity s ∧ r.Bridges q s := by
  constructor
  · intro parted
    unfold Parted at parted
    split at parted
    next q r s =>
      exact ⟨q, r, s, rfl, rfl, rfl,
        (Quantity.parts_iff_bridges xFresh yFresh zFresh first second).mp parted⟩
    next => exact parted.elim
  · rintro ⟨q, r, s, rfl, rfl, rfl, bridges⟩
    exact Or.inl bridges

end Value

/-- Equality of values is symmetric, and it carries over from one value through a second to a third
unless the second is a quantity that parts the others.  Fresh values, and no others come out of
operations, are parted only by a quantity without an exact count between two quantities with
different ones.  Their magnitudes are then one number, and the counts differ by no more than one
part in `2 ^ 51` of their distances from zero. -/
theorem equality_carries_unless_parted :
    (∀ x y : Value, x.same y = true -> y.same x = true) ∧
    (∀ x y z : Value,
      x.same y = true -> y.same z = true -> (x.same z = true ↔ ¬Value.Parted x y z)) ∧
    (∀ x y z : Value, x.Fresh -> y.Fresh -> z.Fresh -> x.same y = true -> y.same z = true ->
      (x.same z = true ↔
        ¬∃ q r s, x = .quantity q ∧ y = .quantity r ∧ z = .quantity s ∧ r.Bridges q s)) ∧
    (∀ (q r s : Quantity) (m n : Int), q.Fresh -> s.Fresh -> r.Bridges q s ->
      (Value.quantity q).same (.quantity r) = true ->
        (Value.quantity r).same (.quantity s) = true ->
      q.exactNanoseconds = some m -> s.exactNanoseconds = some n ->
      m.natAbs ≤ Nat.pow 2 127 -> n.natAbs ≤ Nat.pow 2 127 ->
        Nat.pow 2 51 * (m - n).natAbs ≤ m.natAbs + n.natAbs) := by
  refine ⟨?_, ?_, ?_, ?_⟩
  · intro x y same
    rwa [Value.same_comm]
  · intro x y z first second
    exact Value.same_trans_iff first second
  · intro x y z xFresh yFresh zFresh first second
    rw [Value.same_trans_iff first second,
      Value.parted_iff_of_fresh xFresh yFresh zFresh first second]
  · intro q r s m n qFresh sFresh bridges first second left right mFits nFits
    exact bridges.close qFresh sFresh first second left right mFits nFits

/-- A magnitude without a count, on which two counts of nanoseconds are rounded. -/
def sharedMagnitude : Quantity := .plain 9007199254740992 .nanosecond

/-- Equality carries over between a quantity, its magnitude without the count, and the quantity
again.  The same magnitude parts two counts, which are next to each other. -/
theorem equality_carries_to_magnitude_and_back :
    ∃ q s, Quantity.ofNanoseconds 9007199254740992 .nanosecond = .ok q ∧
      Quantity.ofNanoseconds 9007199254740993 .nanosecond = .ok s ∧
      (Value.quantity sharedMagnitude).same (.quantity s) = true ∧
      (Value.quantity s).same (.quantity s) = true ∧
      (Value.quantity q).same (.quantity s) = false ∧
      Nat.pow 2 51 * (9007199254740992 - 9007199254740993 : Int).natAbs ≤
        9007199254740992 + 9007199254740993 := by
  rcases equality_carries_unless_parted with ⟨symmetric, carries, fresh, close⟩
  have time : Measure.nanosecond.isTime = true := rfl
  rcases Quantity.exists_ofNanoseconds 9007199254740992 time with ⟨q, qProjected⟩
  rcases Quantity.exists_ofNanoseconds 9007199254740993 time with ⟨s, sProjected⟩
  have qCount := Quantity.exactNanoseconds_of_projected qProjected
  have sCount := Quantity.exactNanoseconds_of_projected sProjected
  have qSame : (Value.quantity q).same (.quantity sharedMagnitude) = true := by
    rcases Quantity.ofNanoseconds_eq_ok_iff.mp qProjected with ⟨size, sized, rfl⟩
    cases sized
    decide +kernel
  have back : (Value.quantity s).same (.quantity sharedMagnitude) = true := by
    rcases Quantity.ofNanoseconds_eq_ok_iff.mp sProjected with ⟨size, sized, rfl⟩
    cases sized
    decide +kernel
  have sSame := symmetric _ _ back
  have qFresh : (Value.quantity q).Fresh := Quantity.Fresh.of_projected qProjected
  have sFresh : (Value.quantity s).Fresh := Quantity.Fresh.of_projected sProjected
  have freshToo : (Value.quantity sharedMagnitude).Fresh := Quantity.Fresh.of_none rfl
  have bridges : sharedMagnitude.Bridges q s := ⟨rfl, _, _, qCount, sCount, by decide⟩
  have parted := (carries _ _ _ qSame sSame).not.mpr (not_not.mpr (Or.inl bridges))
  refine ⟨q, s, qProjected, sProjected, sSame,
    (fresh _ _ _ sFresh freshToo sFresh back sSame).mpr ?_, Bool.not_eq_true _ ▸ parted,
    close q _ s _ _ qFresh sFresh bridges qSame sSame qCount sCount (by decide) (by decide)⟩
  rintro ⟨_, _, _, same, _, sameToo, _, m, n, left, right, differ⟩
  cases same
  cases sameToo
  exact differ (Option.some.inj (left.symm.trans right))

/-- It does not carry over through that magnitude from one count to the next. -/
theorem equality_is_parted_by_magnitude :
    ∃ q s, Quantity.ofNanoseconds 9007199254740992 .nanosecond = .ok q ∧
      Quantity.ofNanoseconds 9007199254740993 .nanosecond = .ok s ∧
      (Value.quantity q).same (.quantity sharedMagnitude) = true ∧
      (Value.quantity sharedMagnitude).same (.quantity s) = true ∧
      (Value.quantity q).same (.quantity s) = false := by
  refine ⟨_, _, rfl, rfl, ?_, ?_, ?_⟩
  all_goals decide +kernel

end Chronometry
