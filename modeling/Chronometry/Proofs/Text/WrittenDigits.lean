import Chronometry.Text.Digits

/-!
# Digits that were written

A count that is written in a fixed number of digits is read back from in front of whatever follows
it.  The digits of a fraction are written without the zeros that they end with; the number of digits
that are left says how many there were, so that the fraction is read back all the same.
-/

namespace Chronometry
namespace Text

theorem ne_of_isDigit {c : Char} (digit : c.isDigit = true) (other : Char)
    (notDigit : other.isDigit = false) :
    c ≠ other := by
  rintro rfl
  exact Bool.noConfusion (digit.symm.trans notDigit)

theorem isDigit_of_mem_toDigits {n : Nat} {c : Char} (listed : c ∈ Nat.toDigits 10 n) :
    c.isDigit = true :=
  Nat.isDigit_of_mem_toDigits (by decide) (by decide) listed

theorem toList_zeroPadded (width n : Nat) :
    (zeroPadded width n).toList =
      List.replicate (width - (Nat.toDigits 10 n).length) '0' ++ Nat.toDigits 10 n := by
  simp only [zeroPadded, padded, Nat.toString_eq_ofList_toDigits, String.toList_append,
    String.toList_ofList, String.length_ofList]

theorem zeroPadded_ne_nil (width n : Nat) : (zeroPadded width n).toList ≠ [] := by
  rw [toList_zeroPadded]
  exact List.append_ne_nil_of_right_ne_nil _ Nat.toDigits_ne_nil

theorem isDigit_of_mem_zeroPadded {width n : Nat} {c : Char}
    (listed : c ∈ (zeroPadded width n).toList) :
    c.isDigit = true := by
  rw [toList_zeroPadded, List.mem_append] at listed
  rcases listed with zero | digit
  · rw [(List.mem_replicate.mp zero).2]
    rfl
  · exact isDigit_of_mem_toDigits digit

/-- By induction on the digits: each of them takes a place of the ten-fold count. -/
theorem ofDigitChars_lt {digits : List Char} (every : ∀ c ∈ digits, c.isDigit = true)
    (count : Nat) :
    Nat.ofDigitChars 10 digits count < (count + 1) * Nat.pow 10 digits.length := by
  induction digits generalizing count with
  | nil => simp [Nat.pow_eq]
  | cons c rest inductionHypothesis =>
      have digit : c.toNat - 48 < 10 := by
        have late : c.toNat ≤ 57 := by
          have digit := every c List.mem_cons_self
          simp only [Char.isDigit, Bool.and_eq_true, decide_eq_true_eq,
            UInt32.le_iff_toNat_le] at digit
          exact digit.2
        omega
      have shorter := inductionHypothesis (fun later listed =>
        every later (List.mem_cons_of_mem _ listed)) (10 * count + (c.toNat - 48))
      have grown : 10 * count + (c.toNat - 48) + 1 ≤ (count + 1) * 10 := by omega
      rw [Nat.ofDigitChars_cons, List.length_cons, Nat.pow_eq, Nat.pow_succ', ← Nat.mul_assoc]
      exact Nat.lt_of_lt_of_le shorter (Nat.mul_le_mul_right _ grown)

/-- Digits denote less than one behind as many zeros. -/
theorem natOfDigits_lt {digits : List Char} (every : ∀ c ∈ digits, c.isDigit = true) :
    natOfDigits digits < Nat.pow 10 digits.length := by
  have below := ofDigitChars_lt every 0
  rwa [Nat.zero_add, Nat.one_mul] at below

theorem natOfDigits_zeroPadded (width n : Nat) : natOfDigits (zeroPadded width n).toList = n := by
  rw [toList_zeroPadded, natOfDigits, Nat.ofDigitChars_append, Nat.ofDigitChars_replicate_zero,
    Nat.mul_zero, Nat.ofDigitChars_ten_toDigits]

theorem length_zeroPadded {width n : Nat} (positive : 0 < width) (fits : n < Nat.pow 10 width) :
    (zeroPadded width n).toList.length = width := by
  have short : (Nat.toDigits 10 n).length ≤ width :=
    (Nat.length_toDigits_le_iff (by decide) positive).mpr fits
  rw [toList_zeroPadded, List.length_append, List.length_replicate]
  omega

/-- A count in a fixed number of digits is not read where another character stands among them. -/
theorem readFixed_eq_none {front : List Char} {c : Char} {places : Nat}
    (short : front.length < places) (other : c.isDigit = false) (rest : List Char) :
    readFixed places (front ++ c :: rest) = none := by
  have among : c ∈ (front ++ c :: rest).take places := by
    have room : places - front.length = places - front.length - 1 + 1 := by omega
    rw [List.take_append, room, List.take_succ_cons]
    exact List.mem_append_right _ List.mem_cons_self
  have mixed : ((front ++ c :: rest).take places).all Char.isDigit = false := by
    rw [List.all_eq_false]
    exact ⟨c, among, by simp [other]⟩
  simp only [readFixed, mixed, Bool.and_false, Bool.false_eq_true, if_false]

/-- What is written in a fixed number of digits is read in as many. -/
theorem readFixed_zeroPadded {width n : Nat} (positive : 0 < width) (fits : n < Nat.pow 10 width)
    (rest : List Char) :
    readFixed width ((zeroPadded width n).toList ++ rest) = some (n, rest) := by
  have length := length_zeroPadded positive fits
  have taken : ((zeroPadded width n).toList ++ rest).take width = (zeroPadded width n).toList :=
    List.take_left' length
  have dropped : ((zeroPadded width n).toList ++ rest).drop width = rest := List.drop_left' length
  have digits : (zeroPadded width n).toList.all Char.isDigit = true :=
    List.all_eq_true.mpr fun c listed => isDigit_of_mem_zeroPadded listed
  simp only [readFixed, taken, dropped, length, digits, natOfDigits_zeroPadded, decide_true,
    Bool.and_self, if_true]

/-! ## Fractions -/

/-- Only zeros are dropped. -/
theorem exists_dropTrailingZeros_append (digits : List Char) :
    ∃ zeros, digits = dropTrailingZeros digits ++ List.replicate zeros '0' := by
  have split : digits.reverse.takeWhile (· == '0') ++ digits.reverse.dropWhile (· == '0') =
      digits.reverse :=
    List.takeWhile_append_dropWhile
  have zero : ∀ c ∈ digits.reverse.takeWhile (· == '0'), c = '0' := by
    intro c listed
    exact beq_iff_eq.mp (List.all_eq_true.mp List.all_takeWhile c listed)
  refine ⟨(digits.reverse.takeWhile (· == '0')).length, ?_⟩
  rw [List.eq_replicate_of_mem zero] at split
  have restored := congrArg List.reverse split
  rw [List.reverse_append, List.reverse_replicate, List.reverse_reverse] at restored
  exact restored.symm

/-- The digits that are left denote the fraction in a coarser unit, and their number says which. -/
theorem natOfDigits_dropTrailingZeros (digits : List Char) :
    natOfDigits (dropTrailingZeros digits) *
      Nat.pow 10 (digits.length - (dropTrailingZeros digits).length) =
      natOfDigits digits := by
  rcases exists_dropTrailingZeros_append digits with ⟨zeros, written⟩
  have lengths := congrArg List.length written
  rw [List.length_append, List.length_replicate] at lengths
  have dropped : digits.length - (dropTrailingZeros digits).length = zeros := by omega
  calc natOfDigits (dropTrailingZeros digits) *
      Nat.pow 10 (digits.length - (dropTrailingZeros digits).length)
      = Nat.pow 10 zeros * natOfDigits (dropTrailingZeros digits) := by rw [dropped, Nat.mul_comm]
    _ = natOfDigits (dropTrailingZeros digits ++ List.replicate zeros '0') := by
        rw [natOfDigits, natOfDigits, Nat.ofDigitChars_append, Nat.ofDigitChars_replicate_zero]
        rfl
    _ = natOfDigits digits := by rw [← written]

theorem length_dropTrailingZeros_le (digits : List Char) :
    (dropTrailingZeros digits).length ≤ digits.length := by
  rcases exists_dropTrailingZeros_append digits with ⟨zeros, written⟩
  have lengths := congrArg List.length written
  rw [List.length_append] at lengths
  omega

theorem mem_of_mem_dropTrailingZeros {digits : List Char} {c : Char}
    (listed : c ∈ dropTrailingZeros digits) :
    c ∈ digits := by
  rcases exists_dropTrailingZeros_append digits with ⟨zeros, written⟩
  rw [written]
  exact List.mem_append_left _ listed

variable {places parts : Nat}

theorem length_fractionDigits_le (positive : 0 < places) (fits : parts < Nat.pow 10 places) :
    (fractionDigits places parts).toList.length ≤ places := by
  rw [fractionDigits, String.toList_ofList]
  exact Nat.le_trans (length_dropTrailingZeros_le _)
    (Nat.le_of_eq (length_zeroPadded positive fits))

theorem isDigit_of_mem_fractionDigits {c : Char}
    (listed : c ∈ (fractionDigits places parts).toList) :
    c.isDigit = true := by
  rw [fractionDigits, String.toList_ofList] at listed
  exact isDigit_of_mem_zeroPadded (mem_of_mem_dropTrailingZeros listed)

theorem natOfDigits_fractionDigits (positive : 0 < places) (fits : parts < Nat.pow 10 places) :
    natOfDigits (fractionDigits places parts).toList *
      Nat.pow 10 (places - (fractionDigits places parts).toList.length) = parts := by
  have scaled := natOfDigits_dropTrailingZeros (zeroPadded places parts).toList
  rw [length_zeroPadded positive fits, natOfDigits_zeroPadded] at scaled
  rw [fractionDigits, String.toList_ofList]
  exact scaled

/-- A fraction that is not zero keeps a digit. -/
theorem fractionDigits_ne_nil (positive : 0 < places) (fits : parts < Nat.pow 10 places)
    (nonzero : parts ≠ 0) :
    (fractionDigits places parts).toList ≠ [] := by
  intro empty
  have value := natOfDigits_fractionDigits positive fits
  rw [empty] at value
  simp only [natOfDigits, Nat.ofDigitChars_nil, Nat.zero_mul] at value
  exact nonzero value.symm

end Text
end Chronometry
