import Chronometry.Proofs.Duration.Milliseconds
import Chronometry.Proofs.Order.Comparison

/-!
# Counts of nanoseconds are embedded in durations

A count of nanoseconds becomes a duration of milliseconds, microseconds and nanoseconds.  Its
milliseconds must fit a word of 64 bits, and then they are held against the limit of their field.
The word is the wider of the two: the limit decides which counts are refused, and the word only in
what way.

Whole numbers describe the fields exactly.  Computed in words of 128 bits, each cut down to 64 bits
for its field, the duration is the same one, since no word is too narrow for what it has to hold.
-/

namespace Chronometry

open Error

namespace Duration

variable {m n count : Int} {d e : Duration}

/-- A duration that keeps a count of nanoseconds in its three finest fields. -/
structure Embeds (count : Int) (d : Duration) : Prop where
  unused : ∀ grain : Grain, Grain.millisecond.rank < grain.rank -> d.get grain = 0
  microseconds_lt : (d.get .microsecond).natAbs < 1000
  nanoseconds_lt : (d.get .nanosecond).natAbs < 1000
  signed : ∀ grain, d.get grain = 0 ∨ (d.get grain).sign = count.sign
  sum_eq : d.get .millisecond * 1000000 + d.get .microsecond * 1000 + d.get .nanosecond = count
  isZero_iff : d.isZero = true ↔ count = 0
  sign_eq : d.sign = count.sign

/-- A field of a balanced length is zero or has the sign of the length. -/
theorem sign_get_of_balanced? {top : Grain} (found : balanced? top count = some d) (grain : Grain) :
    d.get grain = 0 ∨ (d.get grain).sign = count.sign := by
  rw [get_of_balanced? found]
  rcases Int.lt_trichotomy count 0 with negative | rfl | positive
  · have nonpos := Fields.get_balanced_nonpos top (Int.le_of_lt negative) grain
    rcases Int.lt_or_eq_of_le nonpos with below | zero
    · exact Or.inr (by rw [Int.sign_eq_neg_one_of_neg below, Int.sign_eq_neg_one_of_neg negative])
    · exact Or.inl zero
  · exact Or.inl (Int.le_antisymm (Fields.get_balanced_nonpos top (Int.le_refl 0) grain)
      (Fields.get_balanced_nonneg top (Int.le_refl 0) grain))
  · have nonneg := Fields.get_balanced_nonneg top (Int.le_of_lt positive) grain
    rcases Int.lt_or_eq_of_le nonneg with above | zero
    · exact Or.inr (by rw [Int.sign_eq_one_of_pos above, Int.sign_eq_one_of_pos positive])
    · exact Or.inl zero.symm

theorem embeds_of_balanced? (found : balanced? .millisecond count = some d) : Embeds count d := by
  have plain := not_hasCalendarFields_of_balanced? found
  have unused (grain : Grain) (above : Grain.millisecond.rank < grain.rank) : d.get grain = 0 := by
    rw [get_of_balanced? found, Fields.get_balanced_eq_zero (Or.inr above)]
  have small (grain : Grain) (below : grain.rank < Grain.millisecond.rank) : (d.get grain).natAbs <
      grain.perNext := by
    rw [get_of_balanced? found]
    exact Fields.natAbs_get_balanced_lt below (Nat.lt_trans below (by decide)) count
  have length := length_of_balanced? found
  refine ⟨unused, small .microsecond (by decide), small .nanosecond (by decide),
    sign_get_of_balanced? found, ?_, ?_, ?_⟩
  · have days := unused .day (by decide)
    have hours := unused .hour (by decide)
    have minutes := unused .minute (by decide)
    have seconds := unused .second (by decide)
    simp only [get, Fields.get] at days hours minutes seconds ⊢
    simp only [Duration.length, Fields.length, days, hours, minutes, seconds] at length
    omega
  · rw [Duration.isZero_iff plain, length]
  · rw [sign_eq_sign_length plain, length]

/-! ## The two ways to be refused -/

/-- Whole numbers that a signed word of 64 bits holds. -/
def FitsWord (value : Int) : Prop :=
  -0x8000000000000000 ≤ value ∧ value < 0x8000000000000000

instance (value : Int) : Decidable (FitsWord value) :=
  inferInstanceAs (Decidable (_ ∧ _))

theorem exists_ofNanoseconds_iff (count : Int) :
    (∃ d, ofNanoseconds count = .ok d) ↔ (count.tdiv 1000000).natAbs ≤ 631107417600000 := by
  simp only [ofNanoseconds_eq_ok_iff]
  exact exists_balanced?_iff rfl count

/-- Counts whose milliseconds overflow the word are named in the error, and the others are left to
the limits. -/
theorem error_of_ofNanoseconds {error : Error} (refused : ofNanoseconds count = .error error) :
    error = .outOfRange (if FitsWord (count.tdiv 1000000) then
      .limits (.milliseconds (count.tdiv 1000000)) else .nanoseconds count) := by
  change (if FitsWord (count.tdiv 1000000) then
      withinLimits (.milliseconds (count.tdiv 1000000)) (balanced? .millisecond count)
    else .error (.outOfRange (.nanoseconds count))) = .error error at refused
  split at refused
  next fits =>
    rw [if_pos fits]
    exact eq_of_withinLimits_eq_error refused
  next overflows =>
    rw [if_neg overflows]
    exact (Except.error.inj refused).symm

theorem order?_of_ofNanoseconds (left : ofNanoseconds m = .ok d) (right : ofNanoseconds n = .ok e) :
    d.order? e = some (compare m n) := by
  have leftFound := ofNanoseconds_eq_ok_iff.mp left
  have rightFound := ofNanoseconds_eq_ok_iff.mp right
  rw [order?_of_plain (not_hasCalendarFields_of_balanced?
    leftFound) (not_hasCalendarFields_of_balanced? rightFound), length_of_balanced? leftFound,
    length_of_balanced? rightFound]

/-! ## In words -/

/-- The milliseconds of a count in a word of 128 bits.  The microseconds and nanoseconds are taken
out of the rest. -/
def wordMilliseconds (word : BitVec 128) : BitVec 128 :=
  word.sdiv 1000000

def wordMicroseconds (word : BitVec 128) : BitVec 128 :=
  (word.srem 1000000).sdiv 1000

def wordNanoseconds (word : BitVec 128) : BitVec 128 :=
  (word.srem 1000000).srem 1000

/-- The number that the lower half of a word of 128 bits holds by itself. -/
def lowerHalf (word : BitVec 128) : Int :=
  (word.setWidth 64).toInt

/-- The duration of a count in a word of 128 bits.  Only the milliseconds are checked before the
upper half of their word is dropped. -/
def ofWord (word : BitVec 128) : Except Error Duration :=
  if FitsWord (wordMilliseconds word).toInt then
    withinLimits (.milliseconds (lowerHalf (wordMilliseconds word))) (ofFields?
      { Fields.zero with
        milliseconds := lowerHalf (wordMilliseconds word)
        microseconds := lowerHalf (wordMicroseconds word)
        nanoseconds := lowerHalf (wordNanoseconds word) })
  else .error (.outOfRange (.nanoseconds word.toInt))

theorem fitsWord_of_natAbs_lt {value : Int} (small : value.natAbs < 1000000) : FitsWord value := by
  unfold FitsWord
  omega

/-- The remainder of a division by a million is small, and so is what is counted in it. -/
theorem natAbs_tmod_million_lt (count : Int) : (count.tmod 1000000).natAbs < 1000000 := by
  rw [Int.natAbs_tmod]
  exact Nat.mod_lt _ (by decide)

/-- A word is cut down without loss when half of it suffices. -/
theorem lowerHalf_of_fitsWord {word : BitVec 128} (fits : FitsWord word.toInt) :
    lowerHalf word = word.toInt := by
  rw [lowerHalf, ← BitVec.signExtend_eq_setWidth_of_le word (by decide),
    BitVec.toInt_signExtend_eq_toInt_bmod_of_le word (by decide)]
  exact Int.bmod_eq_of_le fits.1 fits.2

theorem toInt_wordMilliseconds (word : BitVec 128) :
    (wordMilliseconds word).toInt = word.toInt.tdiv 1000000 :=
  BitVec.toInt_sdiv_of_ne_or_ne word 1000000 (Or.inr (by decide))

theorem toInt_wordMicroseconds (word : BitVec 128) :
    (wordMicroseconds word).toInt = (word.toInt.tmod 1000000).tdiv 1000 := by
  rw [wordMicroseconds, BitVec.toInt_sdiv_of_ne_or_ne _ _ (Or.inr (by decide)), BitVec.toInt_srem]
  rfl

theorem toInt_wordNanoseconds (word : BitVec 128) :
    (wordNanoseconds word).toInt = (word.toInt.tmod 1000000).tmod 1000 := by
  rw [wordNanoseconds, BitVec.toInt_srem, BitVec.toInt_srem]
  rfl

/-- The conversions of a count in a word lose nothing: every one yields the whole number that it is
meant to yield. -/
structure ConvertsExactly (word : BitVec 128) : Prop where
  milliseconds : FitsWord (wordMilliseconds word).toInt ->
    lowerHalf (wordMilliseconds word) = word.toInt.tdiv 1000000
  microseconds : lowerHalf (wordMicroseconds word) = (word.toInt.tmod 1000000).tdiv 1000
  nanoseconds : lowerHalf (wordNanoseconds word) = (word.toInt.tmod 1000000).tmod 1000

theorem convertsExactly (word : BitVec 128) : ConvertsExactly word where
  milliseconds := by
    intro fits
    rw [lowerHalf_of_fitsWord fits, toInt_wordMilliseconds]
  microseconds := by
    have fits : FitsWord (wordMicroseconds word).toInt := by
      rw [toInt_wordMicroseconds]
      apply fitsWord_of_natAbs_lt
      rw [Int.natAbs_tdiv]
      exact Nat.lt_of_le_of_lt (Nat.div_le_self _ _) (natAbs_tmod_million_lt word.toInt)
    rw [lowerHalf_of_fitsWord fits, toInt_wordMicroseconds]
  nanoseconds := by
    have fits : FitsWord (wordNanoseconds word).toInt := by
      rw [toInt_wordNanoseconds]
      apply fitsWord_of_natAbs_lt
      rw [Int.natAbs_tmod (word.toInt.tmod 1000000)]
      exact Nat.lt_of_le_of_lt (Nat.mod_le _ _) (natAbs_tmod_million_lt word.toInt)
    rw [lowerHalf_of_fitsWord fits, toInt_wordNanoseconds]

theorem balanced_millisecond (count : Int) :
    Fields.balanced .millisecond count =
      { Fields.zero with
        milliseconds := count.tdiv 1000000
        microseconds := (count.tmod 1000000).tdiv 1000
        nanoseconds := (count.tmod 1000000).tmod 1000 } := rfl

/-- Words and whole numbers make the same durations, and they fail in the same way. -/
theorem ofWord_eq_ofNanoseconds (word : BitVec 128) : ofWord word = ofNanoseconds word.toInt := by
  have exactly := convertsExactly word
  change _ = if FitsWord (word.toInt.tdiv 1000000) then
      withinLimits (.milliseconds (word.toInt.tdiv 1000000)) (balanced? .millisecond word.toInt)
    else .error (.outOfRange (.nanoseconds word.toInt))
  rw [← toInt_wordMilliseconds, ofWord]
  split
  next fits =>
    rw [exactly.milliseconds fits, exactly.microseconds, exactly.nanoseconds, balanced?,
      balanced_millisecond, toInt_wordMilliseconds]
  next => rfl

end Duration

open Duration

/-- Counts of nanoseconds are embedded in durations, exactly and in their order.  A count is refused
when its milliseconds are beyond their limit, and for nothing else; every other count can be read
off the three finest fields of its duration.  Words of 128 and 64 bits are wide enough for all of
this. -/
theorem counts_embed_in_order :
    (∀ count : Int,
      ((∃ d, ofNanoseconds count = .ok d) ↔ (count.tdiv 1000000).natAbs ≤ 631107417600000) ∧
      (∀ error, ofNanoseconds count = .error error ->
        error = .outOfRange (if FitsWord (count.tdiv 1000000) then
          .limits (.milliseconds (count.tdiv 1000000)) else .nanoseconds count)) ∧
      (∀ d, ofNanoseconds count = .ok d -> Embeds count d)) ∧
    (∀ (m n : Int) (d e : Duration), ofNanoseconds m = .ok d -> ofNanoseconds n = .ok e ->
      d.order? e = some (compare m n)) ∧
    (∀ word : BitVec 128, ConvertsExactly word ∧ ofWord word = ofNanoseconds word.toInt) := by
  refine ⟨?_, ?_, ?_⟩
  · intro count
    refine ⟨exists_ofNanoseconds_iff count,
      fun error refused => error_of_ofNanoseconds refused, ?_⟩
    intro d made
    exact embeds_of_balanced? (ofNanoseconds_eq_ok_iff.mp made)
  · intro m n d e left right
    exact order?_of_ofNanoseconds left right
  · intro word
    exact ⟨convertsExactly word, ofWord_eq_ofNanoseconds word⟩

/-- The longest duration backward keeps its count to the last nanosecond and comes before a short
one forward.  One more nanosecond is beyond the limit, and a count whose milliseconds overflow their
word is named. -/
theorem longest_count_is_embedded :
    (∃ d e, ofNanoseconds (-631107417600000999999) = .ok d ∧ ofNanoseconds 1500 = .ok e ∧
      Embeds (-631107417600000999999) d ∧ d.order? e = some .lt) ∧
    (∃ error, ofNanoseconds (-631107417600001000000) = .error error ∧
      error = .outOfRange (.limits (.milliseconds (-631107417600001)))) ∧
    (∃ error, ofNanoseconds 9223372036854775808000000 = .error error ∧
      error = .outOfRange (.nanoseconds 9223372036854775808000000)) ∧
    lowerHalf (wordMilliseconds (-631107417600000999999)) = -631107417600000 := by
  rcases counts_embed_in_order with ⟨counts, ordered, words⟩
  have longest : ofNanoseconds (-631107417600000999999) =
      .ok ⟨⟨0, 0, 0, 0, 0, 0, 0, -631107417600000, -999, -999⟩, by decide, by decide⟩ := rfl
  have short : ofNanoseconds 1500 =
      .ok ⟨⟨0, 0, 0, 0, 0, 0, 0, 0, 1, 500⟩, by decide, by decide⟩ := rfl
  have beyond : ofNanoseconds (-631107417600001000000) =
      .error (.outOfRange (.limits (.milliseconds (-631107417600001)))) := rfl
  have overflowing : ofNanoseconds 9223372036854775808000000 =
      .error (.outOfRange (.nanoseconds 9223372036854775808000000)) := rfl
  refine ⟨⟨_, _, longest, short, (counts _).2.2 _ longest, ordered _ _ _ _ longest short⟩,
    ⟨_, beyond, ?_⟩, ⟨_, overflowing, ?_⟩,
    (words (-631107417600000999999)).1.milliseconds (by decide)⟩
  · exact (counts _).2.1 _ beyond
  · exact (counts _).2.1 _ overflowing

end Chronometry
