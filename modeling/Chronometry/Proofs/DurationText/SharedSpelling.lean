import Chronometry.Proofs.Duration.Counts
import Chronometry.Proofs.DurationText.Counted
import Chronometry.Quantity.Conversion

/-!
# Shared spellings

A spelling that names a unit of time in the catalogue and a grain in duration text names the same
length of time, unless it is a spelling of the month.  A count with such a unit reaches a duration
on two ways.  As text it is counted in nanoseconds first and then divided by a million.  As a
quantity it is rounded, multiplied by the size of the unit and divided by the size of a millisecond;
there is nothing to convert if the unit is the millisecond.  The two ways meet where the count is an
exact number and fits a word.  For milliseconds and coarser units the limit of durations sees to
both, except that milliseconds need not fit a word; then the text is read as a decimal term, and its
factor is one.
-/

namespace Chronometry

open Binary64

namespace DurationText

variable {name : String} {unit : Measure} {grain : Grain} {count : Nat} {tagged : Binary64}
  {d e : Duration}

/-! ## Lengths -/

/-- The unit and the grain of a spelling have one length. -/
theorem nanoseconds?_of_shared (spells : Measure.ofName name = .ok unit) (time : unit.isTime = true)
    (named : grainOf? name.toList = some grain) (notMonth : unit ≠ .month) :
    unit.nanoseconds? = some (nominalNanoseconds grain) := by
  have every : ∀ grain ∈ Grain.all, ∀ spelling ∈ spellings grain, ∀ unit ∈ Measure.find? spelling,
      unit.isTime = true -> unit ≠ .month ->
      unit.nanoseconds? = some (nominalNanoseconds grain) := by
    decide +kernel
  have spelled := mem_spellings_of_grainOf? named
  rw [String.ofList_toList] at spelled
  have found : Measure.find? name = some unit := by
    unfold Measure.ofName at spells
    split at spells
    next unit' found => rw [found, Except.ok.inj spells]
    next => contradiction
  exact every grain grain.mem_all name spelled unit found time notMonth

theorem nominalNanoseconds_pos (grain : Grain) : 0 < nominalNanoseconds grain := by
  cases grain <;> decide

/-- Grains are counted in their own length or in seconds. -/
theorem wordSize_cases (grain : Grain) :
    (grain = .nanosecond ∨ grain = .microsecond ∨ grain = .millisecond) ∨
      nominalNanoseconds grain = wordSize grain * 1000000000 := by
  cases grain <;> decide

/-! ## Milliseconds beyond a word -/

/-- The factor of milliseconds is one. -/
theorem decimalMilliseconds_standsAt (small : count ≤ Nat.pow 2 53) :
    (0 + ofInt count * millisecondsOf (nominalNanoseconds .millisecond)).StandsAt
      (count * quantaPerOne : Nat) := by
  have one : (millisecondsOf (nominalNanoseconds .millisecond)).StandsAt quantaPerOne := by
    decide +kernel
  have none : (0 : Binary64).StandsAt 0 := by decide +kernel
  have inside : Nat.pow 2 53 * quantaPerOne < quantaLimit := power_lt_quantaLimit rfl (by decide)
  have kept : Kept ((count * quantaPerOne : Nat) : Int).natAbs := kept_of_le small
  have within : ((count * quantaPerOne : Nat) : Int).natAbs < quantaLimit := by
    rw [Int.natAbs_natCast]
    exact Nat.lt_of_le_of_lt (Nat.mul_le_mul_right _ small) inside
  have undone := rounded_mul kept quantaPerOne_pos
  have product := mul_standsAt (ofInt_standsAt_of_le small) one (by rwa [undone])
  rw [undone] at product
  have alone : rounded (0 + (count * quantaPerOne : Nat)) 1 = (count * quantaPerOne : Nat) := by
    rw [Int.zero_add]
    exact rounded_of_kept kept
  have sum := add_standsAt none product (by rwa [alone])
  rwa [alone] at sum

/-! ## Durations -/

/-- Both ways lead to a duration of the whole number nearest to one position. -/
structure Agree (count size : Nat) (d e : Duration) : Prop where
  meeting : ∃ position,
    Reaches count size position ∧
      Duration.balanced? .millisecond (nearestWhole position) = some d ∧
    Duration.balanced? .millisecond (nearestWhole position) = some e
  limited : 1000000 ≤ size -> count * size < 633318697598976 * 1000000

theorem Agree.eq {size : Nat} (agree : Agree count size d e) : d = e := by
  rcases agree.meeting with ⟨position, _, left, right⟩
  exact Option.some.inj (left.symm.trans right)

theorem agree_of_fits {size : Nat}
    (found : Duration.balanced? .millisecond
      (nearestWhole (inNanoseconds (Quantity.taggedPosition count size))) = some e)
    (limited : 1000000 ≤ size -> count * size < 633318697598976 * 1000000) (positive : 0 < size)
    (same : inNanoseconds (countedPosition (count * size)) =
      inNanoseconds (Quantity.taggedPosition count size))
    (text : Duration.ofMilliseconds (millisecondsOf (count * size)) = .ok d) :
    Agree count size d e where
  meeting := by
    have standing := millisecondsOf_standsAt (Duration.ofMilliseconds_eq_ok_iff.mp text).1
    have small : 1000000 ∣ size -> count * size ≤ Nat.pow 2 53 * 1000000 := by
      intro whole
      have less := limited (Nat.le_of_dvd positive whole)
      change _ ≤ 9007199254740992 * 1000000
      omega
    refine ⟨_, reaches_countedPosition small, Duration.balanced?_of_standsAt standing text, ?_⟩
    rw [same]
    exact found
  limited := limited

/-- There is one way only where the text is counted in a word, the count is exact, and the unit is
converted. -/
theorem agree_of_converted
    (found : Duration.balanced? .millisecond (nearestWhole
      (inNanoseconds (Quantity.taggedPosition count (nominalNanoseconds grain)))) = some e)
    (limited : 1000000 ≤ nominalNanoseconds grain ->
      count * nominalNanoseconds grain < 633318697598976 * 1000000)
    (fits : FitsWord count grain)
    (exact : nominalNanoseconds grain = 1 ∨ Kept (count * quantaPerOne))
    (other : nominalNanoseconds grain ≠ 1000000)
    (text : Duration.ofMilliseconds (countedMilliseconds count grain) = .ok d) :
    Agree count (nominalNanoseconds grain) d e := by
  have ways := taggedPosition_eq count _ exact other
  rw [countedMilliseconds, if_pos fits] at text
  exact agree_of_fits found limited (nominalNanoseconds_pos grain)
    (congrArg inNanoseconds ways.symm) text

/-- Milliseconds are not converted, and as text they need not fit a word. -/
theorem agree_of_milliseconds
    (found : Duration.balanced? .millisecond
      (nearestWhole (inNanoseconds (Quantity.taggedPosition count 1000000))) = some e)
    (limited : count * 1000000 < 633318697598976 * 1000000)
    (text : Duration.ofMilliseconds (countedMilliseconds count .millisecond) = .ok d) :
    Agree count 1000000 d e := by
  have few : count ≤ Nat.pow 2 53 := by
    change count ≤ 9007199254740992
    omega
  have alone := inNanoseconds_taggedPosition_of_milliseconds few
  unfold countedMilliseconds at text
  by_cases fits : FitsWord count .millisecond
  · rw [if_pos fits] at text
    have ways := (inNanoseconds_countedPosition_of_milliseconds fits).trans alone.symm
    exact agree_of_fits found (fun _ => limited) (by decide) ways text
  · rw [if_neg fits] at text
    have left := Duration.balanced?_of_standsAt (decimalMilliseconds_standsAt few) text
    have unconverted : Quantity.taggedPosition count 1000000 = wholePosition count := if_pos rfl
    rw [← wholePosition_of_kept (kept_of_le few), ← unconverted, alone] at left
    rw [alone] at found
    exact ⟨⟨_, reaches_wholePosition count, left, found⟩, fun _ => limited⟩

/-- Counts of seconds and coarser grains that are not too many for a duration fit a word and are
exact numbers. -/
theorem fitsWord_and_kept_of_coarse
    (coarse : nominalNanoseconds grain = wordSize grain * 1000000000)
    (limited : count * nominalNanoseconds grain < 633318697598976 * 1000000) :
    FitsWord count grain ∧ Kept (count * quantaPerOne) := by
  rw [coarse, ← Nat.mul_assoc] at limited
  have units := Nat.le_mul_of_pos_right count (wordSize_pos grain)
  constructor
  · change count * wordSize grain < 18446744073709551616
    omega
  · apply kept_of_le
    change count ≤ 9007199254740992
    omega

theorem agree_of_tagged (sized : unit.nanoseconds? = some (nominalNanoseconds grain))
    (converted : (Quantity.plain (ofInt count) unit).magnitudeIn .millisecond = .ok tagged)
    (text : Duration.ofMilliseconds (countedMilliseconds count grain) = .ok d)
    (quantity : Duration.ofMilliseconds tagged = .ok e)
    (nanoseconds : grain = .nanosecond -> count < Nat.pow 2 64)
    (microseconds : grain = .microsecond -> count * 1000 < Nat.pow 2 64 ∧
      Kept (count * quantaPerOne)) :
    Agree count (nominalNanoseconds grain) d e := by
  have standing :=
    Quantity.tagged_standsAt sized converted (Duration.ofMilliseconds_eq_ok_iff.mp quantity).1
  have found := Duration.balanced?_of_standsAt standing quantity
  have below := Duration.position_lt_of_ofMilliseconds standing quantity
  have limited : 1000000 ≤ nominalNanoseconds grain ->
      count * nominalNanoseconds grain < 633318697598976 * 1000000 := fun coarse =>
    count_lt_of_taggedPosition coarse below
  rcases wordSize_cases grain with (rfl | rfl | rfl) | coarse
  · have fits : FitsWord count .nanosecond := by
      change count * 1 < _
      rw [Nat.mul_one]
      exact nanoseconds rfl
    exact agree_of_converted found limited fits (Or.inl rfl) (by decide) text
  · rcases microseconds rfl with ⟨fits, exact⟩
    exact agree_of_converted found limited fits (Or.inr exact) (by decide) text
  · exact agree_of_milliseconds found (limited (Nat.le_refl _)) text
  · have positive := wordSize_pos grain
    rcases fitsWord_and_kept_of_coarse coarse (limited (by omega)) with ⟨fits, exact⟩
    exact agree_of_converted found limited fits (Or.inr exact) (by omega) text

end DurationText
end Chronometry
