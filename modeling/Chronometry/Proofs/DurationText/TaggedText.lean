import Chronometry.Engine
import Chronometry.Proofs.DateText.Distance
import Chronometry.Proofs.Duration.ReadBack
import Chronometry.Proofs.DurationText.SharedSpelling
import Chronometry.Proofs.Order.Comparison
import Chronometry.Proofs.Quantity.ConversionChain
import Chronometry.Proofs.Quantity.Magnitude

/-!
# Texts and quantities with one unit

A count with a spelling of a unit is a text or a quantity.  As durations the two are the same, and
the duration is read back as the count that was written, in all units but those whose sizes differ.
-/

namespace Chronometry

open Binary64 DurationText

variable {count size nanoseconds : Nat} {d e : Duration} {position : Int}

theorem DurationText.Reaches.exists_nearestWhole (reaches : Reaches count size position) :
    ∃ nanoseconds : Nat, nearestWhole position = nanoseconds := by
  have close := reaches.close
  have nonnegative : 0 ≤ position := by
    unfold Close at close
    simp only [Nat.pow_eq] at close
    omega
  have whole : 0 ≤ nearestWhole position := le_nearestWhole (by rwa [Int.zero_mul])
  exact ⟨(nearestWhole position).toNat, (Int.toNat_of_nonneg whole).symm⟩

/-- The units of time below a second have sizes that are far apart. -/
theorem Measure.size_cases {unit : Measure} (sized : unit.nanoseconds? = some size) :
    size = 1 ∨ size = 1000 ∨ size = 1000000 ∨ 1000000000 ≤ size := by
  cases unit <;> cases sized <;> decide

/-- A count that is few, or of milliseconds and coarser units, is the whole number nearest to what
is read back. -/
theorem DurationText.Agree.nearestWhole_back (agree : Agree count size d e) {unit : Measure}
    (sized : unit.nanoseconds? = some size) (reaches : Reaches count size position)
    (nearest : nearestWhole position = nanoseconds)
    (few : count < Nat.pow 2 49 ∨ 1000000 ≤ size) :
    nearestWhole (Duration.backPosition nanoseconds size) = count := by
  have bounded : count < Nat.pow 2 49 ∨ size = 1000000 ∧ count < 633318697598976 := by
    rcases few with few | coarse
    · exact Or.inl few
    · have limited := agree.limited coarse
      rcases Measure.size_cases sized with rfl | rfl | rfl | large
      · omega
      · omega
      · exact Or.inr ⟨rfl, by omega⟩
      · have product := Nat.mul_le_mul_left count large
        change count < 562949953421312 ∨ _
        omega
  have fine : size = 1 ∨ 1000 ≤ size := by
    rcases Measure.size_cases sized with _ | _ | _ | _ <;> omega
  have moderate := (Quantity.sized_of_nanoseconds? sized).within
  exact Duration.nearestWhole_backPosition fine moderate bounded reaches.close nearest

/-- A count of whole milliseconds that is exact in nanoseconds is read back as it is. -/
theorem DurationText.Agree.back_exact (agree : Agree count size d e) (positive : 0 < size)
    (reaches : Reaches count size position) (nearest : nearestWhole position = nanoseconds)
    (whole : 1000000 ∣ size) (kept : Kept (count * size * quantaPerOne)) :
    count ≤ Nat.pow 2 53 ∧
      Duration.backPosition nanoseconds size = (count * quantaPerOne : Nat) := by
  have least := Nat.le_of_dvd positive whole
  have limited := agree.limited least
  have small : count * size ≤ Nat.pow 2 53 * 1000000 := by
    change _ ≤ 9007199254740992 * 1000000
    omega
  have exactly : nanoseconds = count * size := by
    rw [reaches.exact kept whole, Int.natCast_mul, nearestWhole_whole] at nearest
    exact (Int.ofNat_inj.mp nearest).symm
  constructor
  · have product := Nat.mul_le_mul_left count least
    exact Nat.le_of_mul_le_mul_right (Nat.le_trans product small) (by decide)
  · rw [exactly, Duration.backPosition_of_kept positive whole small kept]

/-- What a duration is read back as where both ways lead to it. -/
theorem DurationText.Agree.exists_back (agree : Agree count size d e) {unit : Measure}
    (sized : unit.nanoseconds? = some size) :
    ∃ back, Registry.standard.convert (.duration d) unit = .ok (.quantity back) ∧ back.unit = unit ∧
      (count < Nat.pow 2 49 ∨ 1000000 ≤ size -> back.value.nearest? = some (count : Int)) ∧
      (1000000 ∣ size -> Kept (count * size * quantaPerOne) ->
        back.value.sameValue (.ofInt count) = true) := by
  rcases agree.meeting with ⟨position, reaches, found, _⟩
  rcases reaches.exists_nearestWhole with ⟨nanoseconds, nearest⟩
  rw [nearest] at found
  rcases Duration.convert_standsAt found sized with ⟨back, converted, inUnit, standing⟩
  refine ⟨back, converted, inUnit, ?_, ?_⟩
  · intro few
    rw [nearest?_of_standsAt standing, agree.nearestWhole_back sized reaches nearest few]
  · intro whole kept
    rcases agree.back_exact (Measure.nanoseconds_pos sized) reaches nearest whole kept
      with ⟨few, exactly⟩
    rw [exactly] at standing
    exact (sameValue_of_standsAt_iff standing (ofInt_standsAt_of_le few)).mpr rfl

theorem toList_counted (count : Nat) (name : String) :
    (toString count ++ " " ++ name).toList = Nat.toDigits 10 count ++ ' ' :: name.toList := by
  have space : " ".toList = [' '] := rfl
  rw [String.toList_append, String.toList_append, Nat.toString_eq_ofList_toDigits,
    String.toList_ofList, space, List.append_assoc]
  rfl

theorem Quantity.eq_of_ofName {name : String} {unit : Measure} {x : Binary64} {q : Quantity}
    (spells : Measure.ofName name = .ok unit) (made : ofName x name = .ok q) :
    q = plain x unit := by
  rw [ofName, spells] at made
  exact (Except.ok.inj made).symm

namespace Engine

variable {engine : Engine}

theorem exists_of_duration_quantity {q : Quantity}
    (made : engine.duration (.value (.quantity q)) = .ok e) :
    ∃ milliseconds, q.magnitudeIn .millisecond = .ok milliseconds ∧
      Duration.ofMilliseconds milliseconds = .ok e := by
  rw [duration, Source.toDuration] at made
  cases converted : q.magnitudeIn .millisecond with
  | error =>
      rw [converted] at made
      contradiction
  | ok milliseconds =>
      rw [converted] at made
      exact ⟨milliseconds, rfl, made⟩

/-- A count with a spelling of a unit of time that duration text shares denotes one duration, as
text and as a quantity, and the duration is read back as the count.  The month is left out, because
it has two lengths.  Counts of nanoseconds must fit a word of 64 bits, and so must counts of
microseconds, which must be exact numbers besides; no other count is too large for this that is not
too large for a duration.  What is read back is rounded: it is closer to the count than to any other
whole number, and it is the count itself where the count of nanoseconds is an exact number. -/
theorem counted_text_is_quantity (engine : Engine) (durations : engine.durations = .everyday)
    (name : TimeName) (shared : (grainOf? name.text.toList).isSome = true)
    (notMonth : name.unit ≠ .month) (count : Nat)
    (nanoseconds : name.unit = .nanosecond -> count < Nat.pow 2 64)
    (microseconds : name.unit = .microsecond -> count * 1000 < Nat.pow 2 64 ∧
      Kept (count * quantaPerOne))
    {d e : Duration} {q : Quantity}
    (text : engine.duration (.text (toString count ++ " " ++ name.text)) = .ok d)
    (tagged : Quantity.ofName (.ofInt count) name.text = .ok q)
    (quantity : engine.duration (.value (.quantity q)) = .ok e) :
    d = e ∧ (Value.duration d).same (.duration e) = true ∧
      (engine.registry = .standard ->
        ∃ back,
          engine.convert (.duration d) name.text = .ok (.quantity back) ∧
            back.unit = name.unit ∧
          ((name.unit = .nanosecond ∨ name.unit = .microsecond -> count < Nat.pow 2 49) ->
            back.value.nearest? = some (count : Int)) ∧
          (∀ size, name.unit.nanoseconds? = some size -> 1000000 ∣ size ->
            Kept (count * size * quantaPerOne) ->
            back.value.sameValue (.ofInt count) = true)) := by
  rcases Option.isSome_iff_exists.mp shared with ⟨grain, named⟩
  have sized := nanoseconds?_of_shared name.spells name.isTime named notMonth
  rcases (duration_text_eq_ok_iff durations).mp text with ⟨length, read, made⟩
  rw [toList_counted, milliseconds?_counted named] at read
  obtain rfl := Option.some.inj read
  obtain rfl := Quantity.eq_of_ofName name.spells tagged
  rcases exists_of_duration_quantity quantity with ⟨milliseconds, converted, madeQuantity⟩
  have unitOf : ∀ {unit : Measure},
      unit.nanoseconds? = some (nominalNanoseconds grain) -> name.unit = unit :=
    fun same => (Quantity.unit_eq_iff_of_nanoseconds? sized same).mpr rfl
  have agree := agree_of_tagged sized converted made madeQuantity
    (fun same => nanoseconds (unitOf (by rw [same]; rfl))) (fun same =>
      microseconds (unitOf (by rw [same]; rfl)))
  have same := agree.eq
  refine ⟨same, ?_, ?_⟩
  · rcases agree.meeting with ⟨_, _, found, _⟩
    have plain := Duration.not_hasCalendarFields_of_balanced? found
    rw [← same]
    exact (Duration.sameLength_iff plain plain).mpr rfl
  · intro standard
    rcases agree.exists_back sized with ⟨back, converted, inUnit, nearest, exact⟩
    refine ⟨back, by rw [convert_of_spelled standard _ name.spells, converted], inUnit, ?_, ?_⟩
    · intro few
      apply nearest
      rcases Measure.size_cases sized with one | thousand | million | large
      · exact Or.inl (few (Or.inl (unitOf (by rw [one]; rfl))))
      · exact Or.inl (few (Or.inr (unitOf (by rw [thousand]; rfl))))
      · exact Or.inr (by omega)
      · exact Or.inr (by omega)
    · intro size sizedAgain whole kept
      obtain rfl := Option.some.inj (sized.symm.trans sizedAgain)
      exact exact whole kept

/-- The spelling of days in the plural. -/
def days : TimeName where
  text := "days"
  unit := .day
  spells := by decide +kernel
  isTime := rfl

/-- Three days are three days, and a quarter of a millisecond is a quarter of a millisecond. -/
theorem three_days_text_is_quantity :
    (∃ d : Duration, atNoon.duration (.text "3 days") = .ok d ∧
      atNoon.duration (.value (.quantity (.plain (.ofInt 3) .day))) = .ok d ∧
      ∃ back, atNoon.convert (.duration d) "days" = .ok (.quantity back) ∧
        back.value.nearest? = some 3 ∧ back.value.sameValue (.ofInt 3) = true) ∧
    (∃ d : Duration, atNoon.duration (.text "250 us") = .ok d ∧
      atNoon.duration (.value (.quantity (.plain (.ofInt 250) .microsecond))) = .ok d) := by
  constructor
  · have text : atNoon.duration (.text (toString 3 ++ " " ++ days.text)) =
        .ok ⟨⟨0, 0, 0, 0, 0, 0, 0, 259200000, 0, 0⟩, by decide, by decide⟩ := by
          decide +kernel
    have quantity : atNoon.duration (.value (.quantity (.plain (.ofInt (3 : Nat)) .day))) =
        .ok ⟨⟨0, 0, 0, 0, 0, 0, 0, 259200000, 0, 0⟩, by decide, by decide⟩ := by
          decide +kernel
    have agreement := counted_text_is_quantity atNoon rfl days (by decide) (by decide) 3
      (fun impossible => absurd impossible (by decide)) (fun impossible =>
        absurd impossible (by decide)) text
      (by decide +kernel) quantity
    rcases agreement.2.2 rfl with ⟨back, converted, _, nearest, exact⟩
    exact ⟨_, text, quantity, back, converted, nearest (fun impossible =>
      absurd impossible (by decide)), exact 86400000000000 rfl (by decide) (by decide +kernel)⟩
  · have text :
        atNoon.duration (.text (toString 250 ++ " " ++ (TimeName.ofUnit .microsecond rfl).text)) =
          .ok ⟨⟨0, 0, 0, 0, 0, 0, 0, 0, 250, 0⟩, by decide, by decide⟩ := by decide +kernel
    have quantity :
        atNoon.duration (.value (.quantity (.plain (.ofInt (250 : Nat)) .microsecond))) =
          .ok ⟨⟨0, 0, 0, 0, 0, 0, 0, 0, 250, 0⟩, by decide, by decide⟩ := by decide +kernel
    have agreement := counted_text_is_quantity atNoon rfl (.ofUnit .microsecond rfl) (by decide)
      (by decide) 250 (fun impossible => absurd impossible (by decide)) (fun _ =>
      ⟨by decide, by decide +kernel⟩) text (by decide +kernel) quantity
    exact ⟨_, text, agreement.1 ▸ quantity⟩

/-- A month of text is longer than a month of a quantity.  Counts of nanoseconds that do not fit a
word are off in text, and counts of microseconds that are not exact are off as quantities.  And a
count of nanoseconds need not be read back exactly. -/
theorem month_text_is_not_quantity :
    (∃ d e q,
      atNoon.duration (.text "1 month") = .ok d ∧ Quantity.ofName (.ofInt 1) "month" = .ok q ∧
      atNoon.duration (.value (.quantity q)) = .ok e ∧ d.length = e.length + 216000000000 ∧
      (Value.duration d).same (.duration e) = false) ∧
    (∃ d e q, atNoon.duration (.text "18446744073709580288 ns") = .ok d ∧
      Quantity.ofName (.ofInt 18446744073709580288) "ns" = .ok q ∧
      atNoon.duration (.value (.quantity q)) = .ok e ∧
        (Value.duration d).same (.duration e) = false) ∧
    (∃ d e q, atNoon.duration (.text "9035293136237377 us") = .ok d ∧
      Quantity.ofName (.ofInt 9035293136237377) "us" = .ok q ∧
      atNoon.duration (.value (.quantity q)) = .ok e ∧
        (Value.duration d).same (.duration e) = false) ∧
    ∃ d back, atNoon.duration (.text "123 ns") = .ok d ∧
      atNoon.convert (.duration d) "ns" = .ok (.quantity back) ∧
      back.value.sameValue (.ofInt 123) = false := by
  refine ⟨⟨⟨⟨0, 0, 0, 0, 0, 0, 0, 2630016000, 0, 0⟩, by decide, by decide⟩,
    ⟨⟨0, 0, 0, 0, 0, 0, 0, 2629800000, 0, 0⟩, by decide, by decide⟩, .plain (.ofInt 1) .month, ?_⟩,
    ⟨⟨⟨0, 0, 0, 0, 0, 0, 0, 18446744073709, 576, 192⟩, by decide, by decide⟩,
    ⟨⟨0, 0, 0, 0, 0, 0, 0, 18446744073709, 580, 288⟩, by decide, by decide⟩,
    .plain (.ofInt 18446744073709580288) .nanosecond, ?_⟩,
    ⟨⟨⟨0, 0, 0, 0, 0, 0, 0, 9035293136237, 376, 512⟩, by decide, by decide⟩,
    ⟨⟨0, 0, 0, 0, 0, 0, 0, 9035293136237, 375, 488⟩, by decide, by decide⟩,
    .plain (.ofInt 9035293136237377) .microsecond, ?_⟩,
    ⟨⟨0, 0, 0, 0, 0, 0, 0, 0, 0, 123⟩, by decide, by decide⟩,
    .plain (millisecondsOf 123 * Measure.millisecond.factor / Measure.nanosecond.factor)
      .nanosecond, ?_⟩
  all_goals decide +kernel

end Engine
end Chronometry
