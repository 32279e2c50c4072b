import Chronometry.Proofs.Duration.Halfway
import Chronometry.Proofs.DurationText.SharedSpelling

/-!
# Whole milliseconds in three spellings

A whole number of milliseconds can be written without a unit, with the unit, and with a fraction of
zero and the unit.  The bare number is read as it is.  The other two are one term, which is counted
in nanoseconds as long as the count fits a word, fraction or not, and they always denote the same.
But the count is rounded before it is divided, and where it lies half way between two numbers the
quotient is another number than the one that was written.
-/

namespace Chronometry

open Binary64

variable {milliseconds : Nat} {x y : Binary64}

/-! ## Numbers -/

namespace Binary64

/-- Positive numbers are equal where they stand at one position. -/
theorem eq_of_standsAt {quanta : Nat} (left : x.StandsAt quanta) (right : y.StandsAt quanta)
    (positive : 0 < quanta) :
    x = y := by
  rcases left.exists_finite positive with ⟨_, rfl⟩
  rcases right.exists_finite positive with ⟨_, rfl⟩
  rfl

theorem round_mul_right (negative : Bool) (numerator denominator : Nat) {factor : Nat}
    (positive : 0 < factor) :
    round negative (numerator * factor) (denominator * factor) =
      round negative numerator denominator := by
  simp only [round, roundQuanta_mul_right _ _ positive]

/-- A zero behind the point does not change a number. -/
theorem ofDecimal_tenths (n : Nat) : ofDecimal false (n * 10) (-1) = ofInt n := by
  unfold ofDecimal
  split
  next none =>
    have zero : n = 0 := by omega
    rw [zero]
    exact ofInt_zero.symm
  next =>
    have significant : ¬((n * 10).log2 + 1 + 3 * (-1) < (-1080 : Int)) := by omega
    have unsigned : ¬(n : Int) < 0 := by omega
    have ten : Nat.pow 10 (-(-1 : Int)).toNat = 1 * 10 := by decide
    rw [if_neg (by decide), if_neg (by decide), if_neg significant, ten,
      Nat.mul_right_comm n 10 quantaPerOne, round_mul_right false _ 1 (by decide)]
    simp only [ofInt, unsigned, decide_false, Int.natAbs_natCast]

theorem splits_tenths (n : Nat) :
    Splits (Nat.toDigits 10 n ++ ['.', '0']) (Nat.toDigits 10 n) (some ['0']) where
  spelled := rfl
  wholeDigits _ := Text.isDigit_of_mem_toDigits
  fractionDigits := List.forall_mem_singleton.mpr rfl

theorem ofDigits_tenths (n : Nat) : ofDigits (Nat.toDigits 10 n) (some ['0']) = ofInt n := by
  have digits : Text.natOfDigits (Nat.toDigits 10 n ++ ['0']) = n * 10 := by
    rw [Text.natOfDigits, Nat.ofDigitChars_append, Nat.ofDigitChars_ten_toDigits]
    simp [Nat.ofDigitChars_cons]
    omega
  rw [ofDigits, Option.getD_some, digits]
  exact ofDecimal_tenths n

end Binary64
namespace DurationText

/-! ## Terms -/

/-- A whole number of milliseconds with a fraction of zero. -/
def tenthsTerm (n : Nat) : ExactTerm where
  whole := Nat.toDigits 10 n
  fraction := some ['0']
  grain := .millisecond

/-- Nothing is added to a length that fits a word. -/
theorem extendFraction?_zero {length : Nat} (fits : length < UInt64.size) :
    extendFraction? length 0 10 .millisecond = some length := by
  have none : word? 0 = some 0 := word?_of_lt (by decide)
  have even : evenQuotient? 0 10 = some 0 := rfl
  have carried : word? (length % 1000000000) = some (length % 1000000000) :=
    word?_of_lt (Nat.lt_of_le_of_lt (Nat.mod_le _ _) fits)
  have below : length % 1000000000 / 1000000000 = 0 := Nat.div_eq_of_lt (Nat.mod_lt _ (by decide))
  have seconds : word? (length / 1000000000) = some (length / 1000000000) :=
    word?_of_lt (Nat.lt_of_le_of_lt (Nat.div_le_self _ _) fits)
  have extended : extend? length 0 0 = some length := by
    simp [extend?, carried, below, seconds]
  rw [extendFraction?, if_neg (by decide), if_neg (by decide), Nat.zero_mul, none]
  simp only [Option.bind_eq_bind, Option.bind_some, even, extended]

theorem extendTerm?_tenthsTerm (n : Nat) :
    extendTerm? 0 (tenthsTerm n) = extendTerm? 0 (wholeTerm n .millisecond) := by
  have ten : word? 10 = some 10 := word?_of_lt (by decide)
  have none : Text.natOfDigits ['0'] = 0 := rfl
  have reads : extendTerm? 0 (tenthsTerm n) = (do
      let length ← extendTerm? 0 (wholeTerm n .millisecond)
      extendFraction? length 0 10 .millisecond) := by
    simp only [extendTerm?, tenthsTerm, wholeTerm, none, List.length_singleton, Nat.pow_eq,
      Nat.pow_one, ten, Option.bind_eq_bind, Option.bind_some, Option.bind_assoc, Option.pure_def]
  rw [reads, extendTerm?_wholeTerm]
  by_cases fits : FitsWord n .millisecond
  · have word : n * nominalNanoseconds .millisecond < UInt64.size := fits
    rw [if_pos fits, Option.bind_eq_bind, Option.bind_some, extendFraction?_zero word]
  · rw [if_neg fits]
    rfl

theorem termMilliseconds_tenthsTerm (n : Nat) :
    termMilliseconds (tenthsTerm n) = countedMilliseconds n .millisecond := by
  rw [← termMilliseconds_wholeTerm, termMilliseconds, termMilliseconds, extendTerm?_tenthsTerm]
  simp only [tenthsTerm, wholeTerm, ofDigits_tenths, ofDigits_toDigits]

/-! ## Lengths -/

theorem countedMilliseconds_zero : countedMilliseconds 0 .millisecond = ofInt 0 :=
  ofInt_zero_div (by decide)

theorem countedMilliseconds_standsAt (fits : FitsWord milliseconds .millisecond) :
    (countedMilliseconds milliseconds .millisecond).StandsAt
      (countedPosition (milliseconds * 1000000)) := by
  rw [countedMilliseconds, if_pos fits]
  have less : milliseconds * 1000000 < Nat.pow 2 64 := fits
  exact millisecondsOf_standsAt
    (isFinite_millisecondsOf (Nat.le_trans (Nat.le_of_lt less) (by decide)))

/-- The number that a count of milliseconds denotes is that count, unless it lies half way. -/
theorem countedMilliseconds_eq_iff (small : milliseconds < Nat.pow 2 53) :
    countedMilliseconds milliseconds .millisecond = ofInt milliseconds ↔
      ¬Halfway milliseconds := by
  have written := ofInt_standsAt_of_le (Nat.le_of_lt small)
  rcases Nat.eq_zero_or_pos milliseconds with rfl | positive
  · exact iff_of_true countedMilliseconds_zero (by decide)
  · have quanta := Nat.mul_pos positive quantaPerOne_pos
    by_cases fits : FitsWord milliseconds .millisecond
    · have standing := countedMilliseconds_standsAt fits
      rw [← countedPosition_eq_iff fits]
      constructor
      · intro same
        exact standing.unique (same ▸ written)
      · intro same
        rw [same] at standing
        exact eq_of_standsAt standing written quanta
    · have standing := decimalMilliseconds_standsAt (Nat.le_of_lt small)
      rw [countedMilliseconds, if_neg fits]
      exact iff_of_true (eq_of_standsAt standing written quanta) fun halfway =>
        fits halfway.between.2

theorem nearest?_countedMilliseconds (small : milliseconds < Nat.pow 2 53) :
    (countedMilliseconds milliseconds .millisecond).nearest? = some (milliseconds : Int) := by
  by_cases fits : FitsWord milliseconds .millisecond
  · rw [nearest?_of_standsAt (countedMilliseconds_standsAt fits),
      nearestWhole_countedPosition fits]
  · have standing := decimalMilliseconds_standsAt (Nat.le_of_lt small)
    rw [countedMilliseconds, if_neg fits, nearest?_of_standsAt standing, Int.natCast_mul,
      nearestWhole_whole]

/-! ## Texts -/

theorem milliseconds?_toDigits (small : milliseconds < Nat.pow 2 53) :
    milliseconds? (Nat.toDigits 10 milliseconds) = some (ofInt milliseconds) := by
  have nonempty : Nat.toDigits 10 milliseconds ≠ [] := Nat.toDigits_ne_nil
  rcases List.exists_cons_of_ne_nil nonempty with ⟨c, rest, written⟩
  have digit : c.isDigit = true := Text.isDigit_of_mem_toDigits (written ▸ List.mem_cons_self)
  have foot : Text.Stops Text.isBlank (c :: rest).reverse := by
    intro last first
    have listed : last ∈ (c :: rest).reverse := List.mem_of_mem_head? first
    rw [List.mem_reverse, ← written] at listed
    exact Text.isBlank_of_isDigit (Text.isDigit_of_mem_toDigits listed)
  have number : ofText? (c :: rest) = some (ofInt milliseconds) := by
    rw [← written, (splits_toDigits milliseconds).ofText?_eq (Or.inl nonempty), ofDigits_toDigits]
  have finite := (ofInt_standsAt_of_le (Nat.le_of_lt small)).1
  rw [written, milliseconds?_eq_bodyMilliseconds? digit foot, bodyMilliseconds?, number]
  simp only
  rw [if_pos finite]

theorem grainOf?_ms : grainOf? ['m', 's'] = some .millisecond := by
  decide

theorem singleTerm_tenths (n : Nat) :
    SingleTerm (Nat.toDigits 10 n ++ ['.', '0']) [] ['m', 's'] (tenthsTerm n) where
  splits := splits_tenths n
  someWhole := Nat.toDigits_ne_nil
  blanks _ listed := nomatch listed
  named := grainOf?_ms

/-- Whole milliseconds below `2 ^ 53` are read as they are without a unit.  With the unit they are
read as one number, whether a fraction of zero is written or not; no other whole number is as near
to it, and it is the number that was written, unless the count of nanoseconds lies half way between
two numbers, which it does between `2 ^ 59` and `2 ^ 64` only. -/
theorem whole_milliseconds_are_read (milliseconds : Nat) (small : milliseconds < Nat.pow 2 53) :
    milliseconds? (toString milliseconds).toList = some (.ofInt milliseconds) ∧
      ∃ x, milliseconds? (toString milliseconds ++ "ms").toList = some x ∧
        milliseconds? (toString milliseconds ++ ".0ms").toList = some x ∧
        x.nearest? = some (milliseconds : Int) ∧
          (x = .ofInt milliseconds ↔ ¬Halfway milliseconds) ∧
        (Halfway milliseconds -> Nat.pow 2 59 ≤ milliseconds * 1000000 ∧
          milliseconds * 1000000 < Nat.pow 2 64) := by
  have noBlanks : ∀ c ∈ ([] : List Char), Text.isBlank c = true := fun _ listed => nomatch listed
  have counted := (singleTerm_counted milliseconds noBlanks grainOf?_ms).milliseconds?_eq
  have tenths := (singleTerm_tenths milliseconds).milliseconds?_eq
  rw [termMilliseconds_wholeTerm, List.nil_append] at counted
  rw [termMilliseconds_tenthsTerm, List.nil_append, List.append_assoc] at tenths
  rw [String.toList_append, String.toList_append, Nat.toString_eq_ofList_toDigits,
    String.toList_ofList]
  exact ⟨milliseconds?_toDigits small, _, counted, tenths, nearest?_countedMilliseconds small,
    countedMilliseconds_eq_iff small, Halfway.between⟩

/-- The longest of these counts does not fit a word in nanoseconds, and the other is the longest of
at most `2 ^ 59` nanoseconds. -/
theorem longest_whole_milliseconds_are_read :
    (9007199254740991 < Nat.pow 2 53 ∧
      milliseconds? "9007199254740991ms".toList = some (.ofInt (9007199254740991 : Nat))) ∧
    576460752303 < Nat.pow 2 53 ∧
      milliseconds? "576460752303ms".toList = some (.ofInt (576460752303 : Nat)) := by
  have read {milliseconds : Nat} {text : String} (small : milliseconds < Nat.pow 2 53)
      (notHalfway : ¬Halfway milliseconds) (written : toString milliseconds ++ "ms" = text) :
      milliseconds? text.toList = some (.ofInt milliseconds) := by
    rcases (whole_milliseconds_are_read milliseconds small).2 with ⟨x, read, _, _, same, _⟩
    rw [← written, read, same.mpr notHalfway]
  constructor
  · exact ⟨by decide, read (by decide) (by decide) (by decide +kernel)⟩
  · exact ⟨by decide, read (by decide) (by decide) (by decide +kernel)⟩

/-- Two milliseconds more are half way between two numbers of nanoseconds.  They are missed with the
unit and read without. -/
theorem halfway_milliseconds_are_missed :
    milliseconds? "576460752305".toList = some (.ofInt 576460752305) ∧
      milliseconds? "576460752305ms".toList ≠ some (.ofInt 576460752305) ∧
      milliseconds? "576460752305.0ms".toList ≠ some (.ofInt 576460752305) := by
  decide +kernel

end DurationText
end Chronometry
