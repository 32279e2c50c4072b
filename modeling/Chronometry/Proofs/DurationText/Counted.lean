import Chronometry.Proofs.Binary64.Nearest
import Chronometry.Proofs.DurationText.Terms
import Chronometry.Proofs.Text.WrittenDigits

/-!
# A number with a unit

The simplest duration text is a number and the spelling of a grain, perhaps with blanks between
them.  It is no bare number, because no number goes on with a blank or with the first letter of a
spelling.  The grammar of exact terms reads it as one term and counts the term, as long as the
counts fit their words.  If they do not, the grammar of decimal terms reads the same term and
multiplies in binary64.
-/

namespace Chronometry

variable {c : Char} {numeral whole : List Char} {fraction : Option (List Char)}

/-! ## Numbers -/

namespace Binary64

theorem ofDecimal_whole (n : Nat) : ofDecimal false n 0 = ofInt n := by
  unfold ofDecimal
  split
  next zero =>
    rw [zero]
    exact ofInt_zero.symm
  next =>
    have unsigned : ¬(n : Int) < 0 := by omega
    simp only [ofInt, unsigned, decide_false, Int.natAbs_natCast]
    rw [if_neg (by decide), if_pos (Int.le_refl 0)]
    simp only [Int.toNat_zero, Nat.pow_eq, Nat.pow_zero, Nat.mul_one]

/-- The digits of a whole number denote the number nearest to it. -/
theorem ofDigits_toDigits (n : Nat) : ofDigits (Nat.toDigits 10 n) none = ofInt n := by
  rw [ofDigits, Option.getD_none, List.append_nil, Text.natOfDigits, Nat.ofDigitChars_ten_toDigits]
  exact ofDecimal_whole n

theorem splits_toDigits (n : Nat) : Splits (Nat.toDigits 10 n) (Nat.toDigits 10 n) none where
  spelled := (List.append_nil _).symm
  wholeDigits _ := Text.isDigit_of_mem_toDigits
  fractionDigits _ listed := nomatch listed

end Binary64
namespace DurationText

variable {n : Nat} {gap rest word : List Char} {grain : Grain}

/-! ## Bodies -/

/-- A text that begins with a digit and does not end in a blank is its own body. -/
theorem milliseconds?_eq_bodyMilliseconds? (digit : c.isDigit = true)
    (foot : Text.Stops Text.isBlank (c :: rest).reverse) :
    milliseconds? (c :: rest) = bodyMilliseconds? (c :: rest) := by
  have trimmed :=
    Text.trim_eq_self_of_stops (Text.stops_cons rest (Text.isBlank_of_isDigit digit)) foot
  have minus := Text.ne_of_isDigit digit '-' rfl
  have plus := Text.ne_of_isDigit digit '+' rfl
  unfold milliseconds?
  simp only [trimmed, splitSign_of_unsigned rest minus plus,
    beginsSigned_of_unsigned rest minus plus, List.isEmpty_cons, Bool.or_self,
    Bool.false_eq_true, if_false]
  exact Option.map_id'

/-! ## One term -/

/-- A number and a unit, perhaps with blanks between them. -/
structure SingleTerm (numeral gap word : List Char) (term : ExactTerm) : Prop where
  splits : Binary64.Splits numeral term.whole term.fraction
  someWhole : term.whole ≠ []
  blanks : ∀ c ∈ gap, Text.isBlank c = true
  named : grainOf? word = some term.grain

variable {term : ExactTerm}

theorem exponent?_of_grainOf? (named : grainOf? word = some grain) :
    Binary64.exponent? word = none := by
  have every : ∀ grain ∈ Grain.all,
      ∀ spelling ∈ spellings grain, Binary64.exponent? spelling.toList = none := by
    decide
  have spelled := every grain grain.mem_all _ (mem_spellings_of_grainOf? named)
  rwa [String.toList_ofList] at spelled

theorem exponent?_append (blanks : ∀ c ∈ gap, Text.isBlank c = true)
    (named : grainOf? word = some grain) :
    Binary64.exponent? (gap ++ word) = none := by
  cases gap with
  | nil => exact exponent?_of_grainOf? named
  | cons c others =>
      have blank := blanks c List.mem_cons_self
      apply if_neg
      rintro (rfl | rfl)
      · contradiction
      · contradiction

namespace SingleTerm

theorem exists_digit (single : SingleTerm numeral gap word term) :
    ∃ c rest, numeral = c :: rest ∧ c.isDigit = true := by
  rcases List.exists_cons_of_ne_nil single.someWhole with ⟨c, others, written⟩
  refine ⟨c, others ++ Binary64.pointed term.fraction, ?_,
    single.splits.wholeDigits c (written ▸ List.mem_cons_self)⟩
  rw [single.splits.spelled, written, List.cons_append]

theorem termRuns (single : SingleTerm numeral gap word term) : TermRuns numeral gap word [] := by
  rcases single.exists_digit with ⟨c, rest, written, _⟩
  have unitWord := unitWord_of_grainOf? single.named
  exact ⟨by simp [written], fun _ listed => isNumeral_iff.mpr (single.splits.numerals listed),
    single.blanks, unitWord.nonempty, fun _ => unitWord.alphabetic, fun _ listed => nomatch listed⟩

theorem stops (single : SingleTerm numeral gap word term) : Text.Stops isNumeral (gap ++ word) := by
  have afterNumeral := single.termRuns.afterNumeral []
  rwa [List.append_nil] at afterNumeral

theorem endsDigits (single : SingleTerm numeral gap word term) :
    Binary64.EndsDigits term.fraction (gap ++ word) where
  stops c first := (Bool.or_eq_false_iff.mp (single.stops c first)).1
  pointless _ point := absurd (single.stops '.' point) (by decide)

theorem ofText?_eq (single : SingleTerm numeral gap word term) :
    Binary64.ofText? numeral = some (.ofDigits term.whole term.fraction) :=
  single.splits.ofText?_eq (Or.inl single.someWhole)

theorem ofText?_append (single : SingleTerm numeral gap word term) :
    Binary64.ofText? (numeral ++ (gap ++ word)) = none := by
  apply single.splits.ofText?_append_eq_none
  · exact single.termRuns.someNumeral
  · exact single.endsDigits
  · exact exponent?_append single.blanks single.named

theorem readExactTerm_eq (single : SingleTerm numeral gap word term) :
    readExactTerm (numeral ++ (gap ++ word)) = some (term, []) := by
  rcases single.exists_digit with ⟨c, rest, written, digit⟩
  have begins : (numeral ++ (gap ++ (word ++ []))).head?.any Char.isDigit = true := by rwa [written]
  have unitWord := unitWord_of_grainOf? single.named
  have afterGap := unitWord.stops isDigitOrBlank_eq_false_of_isAlphabetic []
  have noPoint := unitWord.stops isNumeral_eq_false_of_isAlphabetic []
  rcases term with ⟨whole, fraction, grain⟩
  rcases single with ⟨⟨spelled, wholeDigits, fractionDigits⟩, _, blanks, named⟩
  rw [← List.append_nil word]
  cases fraction with
  | none =>
      obtain rfl : numeral = whole := spelled.trans (List.append_nil whole)
      have number := readSpacedDigits_append wholeDigits blanks afterGap
      exact readExactTerm_of_reads begins number (readSpacedFraction_of_stops noPoint) named rfl
  | some digits =>
      change ∀ c ∈ digits, c.isDigit = true at fractionDigits
      obtain rfl : numeral = whole ++ '.' :: digits := spelled
      have number :
          readSpacedDigits (whole ++ ([] ++ ('.' :: digits ++ (gap ++ (word ++ []))))) = _ :=
        readSpacedDigits_append wholeDigits (fun _ listed => nomatch listed)
          (Text.stops_cons _ (by decide))
      have behind : readSpacedFraction ('.' :: digits ++ (gap ++ (word ++ []))) =
          (some digits, word ++ []) := by
        rw [List.cons_append, readSpacedFraction,
          readSpacedDigits_append fractionDigits blanks afterGap]
      rw [List.nil_append, ← List.append_assoc] at number
      exact readExactTerm_of_reads begins number behind named rfl

theorem exactNanoseconds?_eq (single : SingleTerm numeral gap word term) :
    exactNanoseconds? (numeral ++ (gap ++ word)) = extendTerm? 0 term :=
  exactNanoseconds?_of_readExactTerm single.readExactTerm_eq

theorem decimalTerms?_eq (single : SingleTerm numeral gap word term) :
    decimalTerms? (numeral ++ (gap ++ word)) =
      some [⟨.ofDigits term.whole term.fraction, term.grain⟩] := by
  have read := single.termRuns.readDecimalTerm_eq single.ofText?_eq single.named mayFollow_nil
  rw [List.append_nil, List.append_nil] at read
  rw [decimalTerms?_of_readDecimalTerm read, decimalTerms?_nil]
  rfl

end SingleTerm

/-- What a single term denotes. -/
def termMilliseconds (term : ExactTerm) : Binary64 :=
  match extendTerm? 0 term with
  | some nanoseconds => millisecondsOf nanoseconds
  | none => 0 + .ofDigits term.whole term.fraction * millisecondsOf (nominalNanoseconds term.grain)

namespace SingleTerm

theorem bodyMilliseconds?_eq (single : SingleTerm numeral gap word term) :
    bodyMilliseconds? (numeral ++ (gap ++ word)) = some (termMilliseconds term) := by
  rw [bodyMilliseconds?, single.ofText?_append]
  simp only
  rw [single.exactNanoseconds?_eq, termMilliseconds]
  cases extendTerm? 0 term with
  | some nanoseconds => rfl
  | none =>
      simp only
      rw [decimalMilliseconds?, single.decimalTerms?_eq, Option.map_some, sumMilliseconds,
        List.foldl_cons, List.foldl_nil]

theorem milliseconds?_eq (single : SingleTerm numeral gap word term) :
    milliseconds? (numeral ++ (gap ++ word)) = some (termMilliseconds term) := by
  rcases single.exists_digit with ⟨c, rest, written, digit⟩
  have unitWord := unitWord_of_grainOf? single.named
  have foot : Text.Stops Text.isBlank (numeral ++ (gap ++ word)).reverse := by
    rw [List.reverse_append, List.reverse_append, List.append_assoc]
    apply Text.stops_append_of_ne_nil
    · exact fun c listed =>
        Text.isBlank_of_isAlphabetic (unitWord.alphabetic (List.mem_reverse.mp listed))
    · exact mt List.reverse_eq_nil_iff.mp unitWord.nonempty
  rw [← single.bodyMilliseconds?_eq]
  rw [written, List.cons_append] at foot ⊢
  exact milliseconds?_eq_bodyMilliseconds? digit foot

end SingleTerm

/-! ## Words -/

/-- The size of a grain in what its whole parts are counted in: seconds, or nanoseconds for the
grains below a second. -/
def wordSize (grain : Grain) : Nat :=
  (nominalSeconds? grain).getD (nominalNanoseconds grain)

/-- A count of a grain fits a word of 64 bits. -/
def FitsWord (n : Nat) (grain : Grain) : Prop :=
  n * wordSize grain < UInt64.size

instance (n : Nat) (grain : Grain) : Decidable (FitsWord n grain) :=
  inferInstanceAs (Decidable (_ < _))

theorem wordSize_pos (grain : Grain) : 0 < wordSize grain := by
  cases grain <;> decide

/-- What is counted in seconds is as long in nanoseconds. -/
theorem nominalNanoseconds_of_nominalSeconds? {seconds : Nat}
    (coarse : nominalSeconds? grain = some seconds) :
    nominalNanoseconds grain = seconds * 1000000000 := by
  cases grain <;> cases coarse <;> rfl

theorem word?_of_lt (fits : n < UInt64.size) : word? n = some n :=
  if_pos fits

theorem extend?_seconds (fits : n < UInt64.size) : extend? 0 n 0 = some (n * 1000000000) := by
  simp [extend?, word?_of_lt fits, word?_of_lt (show 0 < UInt64.size by decide)]

theorem extend?_nanoseconds (fits : n < UInt64.size) : extend? 0 0 n = some n := by
  have carried : n / 1000000000 < UInt64.size := Nat.lt_of_le_of_lt (Nat.div_le_self _ _) fits
  simp [extend?, word?_of_lt fits, word?_of_lt carried]

theorem word?_of_fits {size : Nat} (counted : wordSize grain = size) (fits : FitsWord n grain) :
    n * size < UInt64.size ∧ word? (n * size) = some (n * size) := by
  rw [FitsWord, counted] at fits
  exact ⟨fits, word?_of_lt fits⟩

theorem word?_of_not_fits {size : Nat} (counted : wordSize grain = size)
    (beyond : ¬FitsWord n grain) :
    word? (n * size) = none := by
  rw [FitsWord, counted] at beyond
  exact if_neg beyond

theorem extendWhole?_zero (n : Nat) (grain : Grain) :
    extendWhole? 0 n grain = if FitsWord n grain then some (n * nominalNanoseconds grain)
      else none := by
  unfold extendWhole?
  split
  next seconds coarse =>
    have counted : wordSize grain = seconds := by rw [wordSize, coarse, Option.getD_some]
    rw [Option.bind_eq_bind]
    by_cases fits : FitsWord n grain
    · rcases word?_of_fits counted fits with ⟨small, word⟩
      rw [if_pos fits, word, Option.bind_some, extend?_seconds small,
        nominalNanoseconds_of_nominalSeconds? coarse, Nat.mul_assoc]
    · rw [if_neg fits, word?_of_not_fits counted fits, Option.bind_none]
  next fine =>
    have counted : wordSize grain = nominalNanoseconds grain := by
      rw [wordSize, fine, Option.getD_none]
    rw [Option.bind_eq_bind]
    by_cases fits : FitsWord n grain
    · rcases word?_of_fits counted fits with ⟨small, word⟩
      rw [if_pos fits, word, Option.bind_some, extend?_nanoseconds small]
    · rw [if_neg fits, word?_of_not_fits counted fits, Option.bind_none]

/-! ## Counts -/

/-- A whole number of a grain. -/
def wholeTerm (n : Nat) (grain : Grain) : ExactTerm where
  whole := Nat.toDigits 10 n
  fraction := none
  grain := grain

theorem extendTerm?_wholeTerm (n : Nat) (grain : Grain) :
    extendTerm? 0 (wholeTerm n grain) = if FitsWord n grain then some (n * nominalNanoseconds grain)
      else none := by
  have reads : (do
      let whole ← word? n
      extendWhole? 0 whole grain) = extendTerm? 0 (wholeTerm n grain) := by
    simp only [extendTerm?, wholeTerm, Text.natOfDigits, Nat.ofDigitChars_ten_toDigits]
    simp
  rw [← reads]
  by_cases small : n < UInt64.size
  · simp only [word?_of_lt small, Option.bind_eq_bind, Option.bind_some, extendWhole?_zero]
  · have beyond : ¬FitsWord n grain := fun fits =>
      small (Nat.lt_of_le_of_lt (Nat.le_mul_of_pos_right n (wordSize_pos grain)) fits)
    simp only [word?, if_neg small, if_neg beyond, Option.bind_eq_bind, Option.bind_none]

/-- What a count with a unit denotes. -/
def countedMilliseconds (n : Nat) (grain : Grain) : Binary64 :=
  if FitsWord n grain then millisecondsOf (n * nominalNanoseconds grain)
  else 0 + .ofInt n * millisecondsOf (nominalNanoseconds grain)

theorem termMilliseconds_wholeTerm (n : Nat) (grain : Grain) :
    termMilliseconds (wholeTerm n grain) = countedMilliseconds n grain := by
  rw [termMilliseconds, extendTerm?_wholeTerm, countedMilliseconds]
  by_cases fits : FitsWord n grain
  · rw [if_pos fits, if_pos fits]
  · rw [if_neg fits, if_neg fits]
    simp only [wholeTerm, Binary64.ofDigits_toDigits]

theorem singleTerm_counted (n : Nat) (blanks : ∀ c ∈ gap, Text.isBlank c = true)
    (named : grainOf? word = some grain) :
    SingleTerm (Nat.toDigits 10 n) gap word (wholeTerm n grain) where
  splits := Binary64.splits_toDigits n
  someWhole := Nat.toDigits_ne_nil
  blanks := blanks
  named := named

theorem milliseconds?_counted (named : grainOf? word = some grain) :
    milliseconds? (Nat.toDigits 10 n ++ ' ' :: word) = some (countedMilliseconds n grain) := by
  have space : ∀ c ∈ [' '], Text.isBlank c = true := List.forall_mem_singleton.mpr rfl
  have read := (singleTerm_counted n space named).milliseconds?_eq
  rwa [termMilliseconds_wholeTerm] at read

end DurationText
end Chronometry
