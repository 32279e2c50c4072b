import Chronometry.Proofs.Quantity.CountedMagnitude
import Chronometry.Proofs.Session.Standing

/-!
# Counts in words

The nanoseconds of a magnitude are counted in signed words of 128 bits.  A number that is converted
to such a word could silently become one of its ends, and the guards against that are comparisons of
numbers with the number nearest to the greatest word, which is itself too large for a word.  The
guards suffice: no conversion that they let through meets an end of the word, and the count in words
is the count in whole numbers for every finite magnitude and every unit of time.

The lower end of the word needs an argument of its own, because it fits a word and its opposite does
not.  It is never reached: only the nanosecond could reach it, and there the guard refuses the
magnitude.
-/

namespace Chronometry
namespace Quantity

open Binary64

variable {value : Binary64} {unit : Measure} {size : Nat} {p : Int}

/-! ## In words -/

/-- The product of two signed words, if it is the product of the numbers that they hold. -/
def checkedProduct (x y : BitVec 128) : Option (BitVec 128) :=
  if x.smulOverflow y then none else some (x * y)

/-- The question whether a magnitude is multiplied in words: it is whole, and below the end of the
word. -/
def isCountedInWords (value : Binary64) : Bool :=
  value.fraction.sameValue 0 && value.unsigned.less wordLimit

/-- The whole part of the product of a magnitude and a size in binary64. -/
def wholeProduct (value : Binary64) (size : Nat) : Binary64 :=
  (value * ofInt size).wholePart

/-- The count of a magnitude in a word of 128 bits.  Every conversion of a number to a word stands
behind a comparison with the end of the word. -/
def nanosecondsInWords (value : Binary64) (size : Nat) : Option (BitVec 128) :=
  if isCountedInWords value then checkedProduct value.toWord (BitVec.ofNat 128 size)
  else if (wholeProduct value size).unsigned.atLeast wordLimit then none
  else some (wholeProduct value size).toWord

/-- The only unit of time whose size is no multiple of five is the nanosecond. -/
theorem size_eq_one_or_dvd (found : unit.nanoseconds? = some size) : size = 1 ∨ 5 ∣ size := by
  have every : ∀ unit ∈ Measure.all, ∀ size ∈ unit.nanoseconds?, size = 1 ∨ 5 ∣ size := by decide
  exact every unit unit.mem_all size found

/-- The lower end of the word, which has no opposite in the word, is no product of a word above it
and a size. -/
theorem mul_size_ne_end (found : unit.nanoseconds? = some size) {whole : Int}
    (small : whole.natAbs < Nat.pow 2 127) :
    whole * size ≠ -(Nat.pow 2 127 : Nat) := by
  intro same
  rcases size_eq_one_or_dvd found with rfl | ⟨fifth, rfl⟩
  · omega
  · rw [Int.natCast_mul, Int.mul_left_comm] at same
    simp only [Nat.pow_eq] at same
    omega

theorem toInt_ofNat_size (sized : Sized size) : (BitVec.ofNat 128 size).toInt = size := by
  have moderate : (size : Int).natAbs < Nat.pow 2 127 := by
    have within := sized.within
    simp only [Nat.pow_eq] at *
    omega
  rw [← BitVec.ofInt_natCast]
  exact toInt_ofInt_of_lt moderate

/-- Products of words fit their word exactly when they fit it in magnitude. -/
theorem map_toInt_checkedProduct (found : unit.nanoseconds? = some size) {word : BitVec 128}
    (small : word.toInt.natAbs < Nat.pow 2 127) :
    (checkedProduct word (BitVec.ofNat 128 size)).map BitVec.toInt =
      if (word.toInt * size).natAbs < Nat.pow 2 127 then some (word.toInt * size) else none := by
  have notEnd := mul_size_ne_end found small
  have sizeInt := toInt_ofNat_size (sized_of_nanoseconds? found)
  have overflow : word.smulOverflow (BitVec.ofNat 128 size) = true ↔
      ¬(word.toInt * size).natAbs < Nat.pow 2 127 := by
    simp only [BitVec.smulOverflow, sizeInt, Bool.or_eq_true, decide_eq_true_iff, Nat.pow_eq] at *
    omega
  unfold checkedProduct
  by_cases fits : (word.toInt * size).natAbs < Nat.pow 2 127
  · have noOverflow := fun overflows => overflow.mp overflows fits
    rw [if_neg noOverflow, if_pos fits, Option.map_some,
      BitVec.toInt_mul_of_not_smulOverflow noOverflow, sizeInt]
  · rw [if_pos (overflow.mpr fits), if_neg fits]
    rfl

theorem isCountedInWords_iff (standing : value.StandsAt p) :
    isCountedInWords value = true ↔
      (quantaPerOne : Int) ∣ p ∧ p.natAbs < Nat.pow 2 127 * quantaPerOne := by
  rw [isCountedInWords, Bool.and_eq_true, fraction_sameValue_zero_iff standing,
    less_iff_of_standsAt (unsigned_standsAt standing) wordLimit_standsAt, Int.ofNat_lt]

/-- Beyond the end of the format a product is an infinity. -/
theorem product_eq_infinity (standing : value.StandsAt p) (sized : Sized size)
    (beyond : ¬(rounded (p * size) 1).natAbs < quantaLimit) :
    ∃ negative, value * ofInt size = .infinity negative := by
  rcases standsAt_iff.mp standing with ⟨left, m, leftRepresentable, rfl, rfl⟩
  rcases standsAt_iff.mp (size_standsAt sized) with ⟨right, n, rightRepresentable, sizeEq, same⟩
  refine ⟨left != right, ?_⟩
  rw [← rounded_mul_scale, ← same, ← signed_mul_signed, natAbs_rounded,
    natAbs_signed] at beyond
  rw [sizeEq, finite_mul_finite, Binary64.round, dif_neg beyond]

/-- The product is held against the end of the word by its whole part. -/
theorem atLeast_wordLimit_iff (standing : value.StandsAt p) (sized : Sized size) :
    (wholeProduct value size).unsigned.atLeast wordLimit = true ↔
      Nat.pow 2 127 * quantaPerOne ≤ (rounded (p * size) 1).natAbs := by
  by_cases within : (rounded (p * size) 1).natAbs < quantaLimit
  · have whole := wholePart_standsAt (product_standsAt standing sized within)
    rw [wholeProduct, atLeast_iff_of_standsAt (unsigned_standsAt whole) wordLimit_standsAt,
      Int.ofNat_le, Int.natAbs_mul, Int.natAbs_tdiv, Int.natAbs_natCast,
      Nat.mul_le_mul_right_iff quantaPerOne_pos]
    exact Nat.le_div_iff_mul_le quantaPerOne_pos
  · rcases product_eq_infinity standing sized within with ⟨negative, product⟩
    rw [wholeProduct, product]
    exact iff_of_true infinity_atLeast_wordLimit
      (Nat.le_trans (Nat.le_of_lt word_lt_quantaLimit) (Nat.le_of_not_lt within))

/-- What a guard lets through is converted without meeting an end of the word. -/
structure ConvertsGuarded (value : Binary64) (size : Nat) : Prop where
  whole : isCountedInWords value = true -> value.ConvertsToWord
  product : isCountedInWords value = false ->
    (wholeProduct value size).unsigned.atLeast wordLimit = false ->
    (wholeProduct value size).ConvertsToWord

theorem wholeProduct_standsAt (standing : value.StandsAt p) (sized : Sized size)
    (small : (rounded (p * size) 1).natAbs < Nat.pow 2 127 * quantaPerOne) :
    (wholeProduct value size).StandsAt ((rounded (p * size) 1).tdiv quantaPerOne * quantaPerOne) :=
  wholePart_standsAt (product_standsAt standing sized (Nat.lt_trans small word_lt_quantaLimit))

theorem natAbs_tdiv_lt_of_lt {position : Int}
    (small : position.natAbs < Nat.pow 2 127 * quantaPerOne) :
    (position.tdiv quantaPerOne).natAbs < Nat.pow 2 127 := by
  rw [Int.natAbs_tdiv, Int.natAbs_natCast]
  exact (Nat.div_lt_iff_lt_mul quantaPerOne_pos).mpr small

/-- The word of a product is the whole part of the product. -/
theorem toInt_toWord_wholeProduct (standing : value.StandsAt p) (sized : Sized size)
    (small : (rounded (p * size) 1).natAbs < Nat.pow 2 127 * quantaPerOne) :
    (wholeProduct value size).ConvertsToWord ∧
      (wholeProduct value size).toWord.toInt = (rounded (p * size) 1).tdiv quantaPerOne := by
  have whole := wholeProduct_standsAt standing sized small
  have fits := natAbs_tdiv_lt_of_lt small
  have again := Int.mul_tdiv_cancel ((rounded (p * size) 1).tdiv quantaPerOne) quantaPerOne_ne_zero
  have converted := toInt_toWord whole (by rwa [again])
  exact ⟨convertsToWord whole (by rwa [again]), by rwa [again] at converted⟩

theorem convertsGuarded (standing : value.StandsAt p) (sized : Sized size) :
    ConvertsGuarded value size where
  whole := by
    intro guarded
    exact convertsToWord standing
      (natAbs_tdiv_lt_of_lt ((isCountedInWords_iff standing).mp guarded).2)
  product := by
    intro _ guarded
    have small := mt (atLeast_wordLimit_iff standing sized).mpr (Bool.eq_false_iff.mp guarded)
    exact (toInt_toWord_wholeProduct standing sized (Nat.lt_of_not_le small)).1

/-- A whole magnitude that is too large for the word has a product that is too large for it. -/
theorem le_natAbs_rounded_of_large (sized : Sized size)
    (large : Nat.pow 2 127 * quantaPerOne ≤ p.natAbs) :
    Nat.pow 2 127 * quantaPerOne ≤ (rounded (p * size) 1).natAbs := by
  apply le_natAbs_rounded kept_word Nat.one_pos
  rw [Nat.mul_one, Int.natAbs_mul, Int.natAbs_natCast]
  exact Nat.le_trans large (Nat.le_mul_of_pos_right _ sized.positive)

/-- Neither does it have a count that fits the word. -/
theorem not_natAbs_countedNanoseconds_lt_of_large (sized : Sized size)
    (whole : (quantaPerOne : Int) ∣ p) (large : Nat.pow 2 127 * quantaPerOne ≤ p.natAbs) :
    ¬(countedNanoseconds p size).natAbs < Nat.pow 2 127 := by
  rcases whole with ⟨count, rfl⟩
  rw [Int.mul_comm, Int.natAbs_mul, Int.natAbs_natCast,
    Nat.mul_le_mul_right_iff quantaPerOne_pos] at large
  rw [Int.mul_comm, countedNanoseconds_of_whole, Int.natAbs_mul, Int.natAbs_natCast]
  exact Nat.not_lt.mpr (Nat.le_trans large (Nat.le_mul_of_pos_right _ sized.positive))

/-- Words count what whole numbers count. -/
theorem map_toInt_nanosecondsInWords (found : unit.nanoseconds? = some size)
    (standing : value.StandsAt p) :
    (nanosecondsInWords value size).map BitVec.toInt =
      if (countedNanoseconds p size).natAbs < Nat.pow 2 127 then some (countedNanoseconds p size)
        else none := by
  have sized := sized_of_nanoseconds? found
  unfold nanosecondsInWords
  by_cases guarded : isCountedInWords value = true
  · -- A whole magnitude within the word: the product of the words is checked.
    rcases (isCountedInWords_iff standing).mp guarded with ⟨⟨whole, rfl⟩, small⟩
    have fits := natAbs_tdiv_lt_of_lt small
    have word := toInt_toWord standing fits
    rw [Int.mul_comm, Int.mul_tdiv_cancel _ quantaPerOne_ne_zero] at word fits
    rw [if_pos guarded, map_toInt_checkedProduct found (by rwa [word]), word,
      Int.mul_comm (quantaPerOne : Int), countedNanoseconds_of_whole]
  · rw [if_neg guarded]
    have outside := mt (isCountedInWords_iff standing).mpr guarded
    by_cases whole : (quantaPerOne : Int) ∣ p
    · -- A whole magnitude beyond the word: neither product fits.
      have large := Nat.le_of_not_lt (fun small => outside ⟨whole, small⟩)
      have atLeast :=
        (atLeast_wordLimit_iff standing sized).mpr (le_natAbs_rounded_of_large sized large)
      rw [if_pos atLeast, if_neg (not_natAbs_countedNanoseconds_lt_of_large sized whole large)]
      rfl
    · -- A magnitude with a fraction: the product is cut off.
      have small := natAbs_rounded_lt_of_fraction sized standing.kept whole
      have below := mt (atLeast_wordLimit_iff standing sized).mp (Nat.not_le.mpr small)
      have fits := natAbs_countedNanoseconds_lt_of_fraction sized standing.kept whole
      rw [if_neg below, if_pos fits, Option.map_some, (toInt_toWord_wholeProduct standing sized
        small).2, countedNanoseconds, countedPosition, if_neg whole]

/-- Where a magnitude has a count, the word holds it, and where it has none, there is no word. -/
theorem toNanoseconds_eq_ok_iff_word (found : unit.nanoseconds? = some size)
    (standing : value.StandsAt p) (count : Int) :
    (plain value unit).toNanoseconds = .ok count ↔
      (nanosecondsInWords value size).map BitVec.toInt = some count := by
  rw [map_toInt_nanosecondsInWords found standing, toNanoseconds_of_standsAt found standing]
  split <;> simp

/-! ## Every magnitude -/

/-- How a magnitude is counted in a unit of time of a size.  What is not finite is refused; a whole
magnitude is counted exactly or refused; any other finite magnitude is counted by its product in
binary64.  Words count the same. -/
structure IsCounted (value : Binary64) (unit : Measure) (size : Nat) : Prop where
  not_finite : value.isFinite = false ->
    (plain value unit).toNanoseconds = .error (.coercion (.magnitudeNotFinite value))
  whole : ∀ whole, value.whole? = some whole -> (plain value unit).toNanoseconds =
    if (whole * size).natAbs < Nat.pow 2 127 then .ok (whole * size)
      else .error (.coercion .countOverflow)
  fractional : value.isFinite = true -> value.whole? = none ->
    ∃ count,
      (plain value unit).toNanoseconds = .ok count ∧ (value * ofInt size).truncated? = some count
  words : value.isFinite = true -> ∀ count,
    (plain value unit).toNanoseconds = .ok count ↔
      (nanosecondsInWords value size).map BitVec.toInt = some count
  guarded : value.isFinite = true -> ConvertsGuarded value size

theorem isCounted_of_nanoseconds? (value : Binary64) (found : unit.nanoseconds? = some size) :
    IsCounted value unit size where
  not_finite := toNanoseconds_of_not_finite found
  whole := by
    intro whole isWhole
    rcases exists_standsAt (isFinite_of_whole? isWhole) with ⟨p, standing⟩
    have multiple := (whole?_eq_some_iff_of_standsAt standing).mp isWhole
    rw [toNanoseconds_of_standsAt found standing, multiple, countedNanoseconds_of_whole]
  fractional := by
    intro finite noWhole
    rcases exists_standsAt finite with ⟨p, standing⟩
    have sized := sized_of_nanoseconds? found
    have small := (natAbs_countedNanoseconds_lt_iff sized standing).mpr (by simp [noWhole])
    have counted := nanosecondsOfMagnitude_of_standsAt standing sized
    simp only [nanosecondsOfMagnitude, noWhole] at counted
    exact ⟨_, (toNanoseconds_of_standsAt found standing).trans (if_pos small), counted⟩
  words := by
    intro finite
    rcases exists_standsAt finite with ⟨p, standing⟩
    exact toNanoseconds_eq_ok_iff_word found standing
  guarded := by
    intro finite
    rcases exists_standsAt finite with ⟨p, standing⟩
    exact convertsGuarded standing (sized_of_nanoseconds? found)

/-- What becomes of a magnitude that is read as an instant: a coercion fails where there is no
count, a limit is left where the count is that of no instant, and otherwise the instant at the count
is answered. -/
structure IsReadAsInstant (value : Binary64) (unit : Measure) (outcome : Except Error Instant) :
  Prop where
  answers : ∀ i, outcome = .ok i ↔ (plain value unit).toNanoseconds = .ok i.nanoseconds
  succeeds : (∃ i, outcome = .ok i) ↔ ∃ count, (plain value unit).toNanoseconds = .ok count ∧
    -377705023201000000000 ≤ count ∧ count ≤ 253402207200999999999
  coercion_fails : (∃ fault, outcome = .error (.coercion fault)) ↔ ¬Countable value unit
  leaves_limits : (∃ fault, outcome = .error (.outOfRange fault)) ↔ ∃ count,
    (plain value unit).toNanoseconds = .ok count ∧
      ¬(-377705023201000000000 ≤ count ∧ count ≤ 253402207200999999999)

theorem exists_instant_at_iff (count : Int) :
    (∃ i, Instant.ofNanoseconds count = .ok i) ↔
      -377705023201000000000 ≤ count ∧ count ≤ 253402207200999999999 := by
  simp only [Instant.ofNanoseconds_eq_ok_iff]
  constructor
  · rintro ⟨i, rfl⟩
    exact ⟨i.lower_le, i.le_upper⟩
  · rintro ⟨lower, upper⟩
    exact ⟨⟨count, lower, upper⟩, rfl⟩

/-- An instant that does not exist is out of range, and nothing else is. -/
theorem exists_outOfRange_iff (count : Int) :
    (∃ fault, Instant.ofNanoseconds count = .error (.outOfRange fault)) ↔
      ¬∃ i, Instant.ofNanoseconds count = .ok i := by
  unfold Instant.ofNanoseconds
  cases Instant.ofNanoseconds? count <;> simp [Error.withinLimits]

theorem isReadAsInstant (value : Binary64) (unit : Measure) (dates : DateReader)
    (reference : Moment) :
    IsReadAsInstant value unit
      ((Source.value (.quantity (plain value unit))).toInstant dates reference) := by
  rcases toNanoseconds_cases value unit
    with ⟨countable, count, counted⟩ | ⟨notCountable, fault, refused⟩
  · refine ⟨toInstant_eq_ok_iff, ?_, ?_, ?_⟩
    · simp only [toInstant_of_counted counted, exists_instant_at_iff, counted, Except.ok.injEq,
        exists_eq_left']
    · refine iff_of_false ?_ (not_not_intro countable)
      rintro ⟨fault, failed⟩
      rw [toInstant_of_counted counted] at failed
      exact nomatch Error.eq_of_withinLimits_eq_error failed
    · simp only [toInstant_of_counted counted, exists_outOfRange_iff, exists_instant_at_iff,
        counted, Except.ok.injEq, exists_eq_left']
  · refine ⟨toInstant_eq_ok_iff, ?_, ?_, ?_⟩
    · simp [toInstant_of_refused refused, refused]
    · exact iff_of_true ⟨fault, toInstant_of_refused refused⟩ notCountable
    · simp [toInstant_of_refused refused, refused]

/-- Magnitudes are counted in nanoseconds or refused.  A unit that is not one of time and a
magnitude that is not finite are refused, a whole magnitude is counted exactly or does not fit its
word, and every other magnitude is counted.  The opposite magnitude has the opposite count.  In
words of 128 bits the count is the same, and no number is converted to an end of its word.  Read as
an instant, a magnitude fails where it has no count, and otherwise only at the limits. -/
theorem magnitudes_are_counted_or_refused (value : Binary64) (unit : Measure) :
    (unit.nanoseconds? = none ->
      (plain value unit).toNanoseconds = .error (.coercion (.notTime unit))) ∧
    (∀ size, unit.nanoseconds? = some size -> IsCounted value unit size) ∧
    (∀ count, (plain (-value) unit).toNanoseconds = .ok count ↔
      (plain value unit).toNanoseconds = .ok (-count)) ∧
    (∀ dates reference,
      IsReadAsInstant value unit
        ((Source.value (.quantity (plain value unit))).toInstant dates reference)) := by
  refine ⟨toNanoseconds_of_not_time, ?_, toNanoseconds_neg_eq_ok_iff value unit,
    isReadAsInstant value unit⟩
  intro size found
  exact isCounted_of_nanoseconds? value found

/-- The last whole magnitude below the end of the word, and the end of the word itself. -/
def beforeWordEnd : Binary64 := ofInt 170141183460469212842221372237303250944
def atWordEnd : Binary64 := ofInt 170141183460469231731687303715884105728

/-- An hour and a half before the epoch. -/
def ninetyMinutesBack : Binary64 := ofDecimal true 15 (-1)

/-- The last whole magnitude of nanoseconds is counted exactly and is no instant; the next one is
refused, and so is its opposite, which a word could hold.  A fraction of hours is counted, the same
in words, and read as an instant. -/
theorem magnitudes_at_word_end_are_counted_or_refused :
    (plain beforeWordEnd .nanosecond).toNanoseconds = .ok 170141183460469212842221372237303250944 ∧
      (∃ fault, (Source.value (.quantity (plain beforeWordEnd .nanosecond))).toInstant
          Engine.atEpoch.dates ⟨.epoch, .utc⟩ = .error (.outOfRange fault)) ∧
      (plain atWordEnd .nanosecond).toNanoseconds = .error (.coercion .countOverflow) ∧
      (∀ count, (plain (-atWordEnd) .nanosecond).toNanoseconds ≠ .ok count) ∧
      (plain ninetyMinutesBack .hour).toNanoseconds = .ok (-5400000000000) ∧
      (nanosecondsInWords ninetyMinutesBack 3600000000000).map BitVec.toInt =
        some (-5400000000000) ∧
      (∃ i, (Source.value (.quantity (plain ninetyMinutesBack .hour))).toInstant
          Engine.atEpoch.dates ⟨.epoch, .utc⟩ = .ok i ∧
        i.nanoseconds = -5400000000000) ∧
      (plain ninetyMinutesBack .metre).toNanoseconds = .error (.coercion (.notTime .metre)) := by
  rcases magnitudes_are_counted_or_refused beforeWordEnd .nanosecond
    with ⟨_, before, _, beforeRead⟩
  rcases magnitudes_are_counted_or_refused atWordEnd .nanosecond with ⟨_, ending, opposite, _⟩
  rcases magnitudes_are_counted_or_refused ninetyMinutesBack .hour with ⟨_, hours, _, hoursRead⟩
  have counted : (plain beforeWordEnd .nanosecond).toNanoseconds =
      .ok 170141183460469212842221372237303250944 :=
    (before 1 rfl).whole 170141183460469212842221372237303250944 (by decide +kernel)
  have refused : (plain atWordEnd .nanosecond).toNanoseconds = .error (.coercion .countOverflow) :=
    (ending 1 rfl).whole 170141183460469231731687303715884105728 (by decide +kernel)
  rcases (hours 3600000000000 rfl).fractional (by decide +kernel) (by decide +kernel)
    with ⟨count, hoursCounted, product⟩
  have truncated : (ninetyMinutesBack * ofInt (3600000000000 : Nat)).truncated? =
      some (-5400000000000) := by decide +kernel
  have back : count = -5400000000000 := Option.some.inj (product.symm.trans truncated)
  subst back
  refine ⟨counted, ?_, refused, ?_, hoursCounted, ?_, ?_, ?_⟩
  · exact (beforeRead _ ⟨.epoch, .utc⟩).leaves_limits.mpr ⟨_, counted, by decide⟩
  · intro count answered
    rw [opposite, refused] at answered
    simp at answered
  · exact ((hours 3600000000000 rfl).words (by decide +kernel) _).mp hoursCounted
  · refine ⟨⟨-5400000000000, by decide, by decide⟩, ?_, rfl⟩
    exact ((hoursRead _ ⟨.epoch, .utc⟩).answers _).mpr hoursCounted
  · exact (magnitudes_are_counted_or_refused ninetyMinutesBack .metre).1 rfl

end Quantity
end Chronometry
