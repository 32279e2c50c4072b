import Chronometry.DurationText.Basic
import Chronometry.Proofs.Binary64.Numeral

/-!
# Written terms

A term is written in runs: the characters of a number, blanks, the letters of a unit, and what parts
it from the next term.  No two of these classes meet, except that blanks part terms as well.  Each
reader therefore gives back the runs that a term was written in, whatever follows it.
-/

namespace Chronometry

variable {c : Char}

/-! ## Classes of characters -/

namespace Text

/-- Two lists of ranges have no code point in common. -/
def Apart (left right : List (Nat × Nat)) : Prop :=
  ∀ l ∈ left, ∀ r ∈ right, l.2 < r.1 ∨ r.2 < l.1

instance (left right : List (Nat × Nat)) : Decidable (Apart left right) :=
  inferInstanceAs (Decidable (∀ _ ∈ _, _))

theorem isWithin_iff {ranges : List (Nat × Nat)} :
    isWithin ranges c = true ↔ ∃ range ∈ ranges, range.1 ≤ c.toNat ∧ c.toNat ≤ range.2 := by
  simp only [isWithin, List.any_eq_true, Bool.and_eq_true, decide_eq_true_eq]

theorem isWithin_eq_false_of_apart {left right : List (Nat × Nat)} (apart : Apart left right)
    (within : isWithin left c = true) : isWithin right c = false := by
  rw [← Bool.not_eq_true]
  intro both
  rcases isWithin_iff.mp within with ⟨l, leftListed, leftBounds⟩
  rcases isWithin_iff.mp both with ⟨r, rightListed, rightBounds⟩
  have beside := apart l leftListed r rightListed
  omega

theorem isBlank_of_isAlphabetic (alphabetic : isAlphabetic c = true) : isBlank c = false := by
  have apart : Apart alphabeticRanges blankRanges := by decide +kernel
  exact isWithin_eq_false_of_apart apart alphabetic

/-- Letters come after the digits and the marks of numbers. -/
theorem lt_toNat_of_isAlphabetic (alphabetic : isAlphabetic c = true) : 64 < c.toNat := by
  have apart : Apart alphabeticRanges [(0, 64)] := by decide +kernel
  have low := isWithin_eq_false_of_apart apart alphabetic
  simp only [isWithin, List.any_cons, List.any_nil, Bool.or_false, Nat.zero_le, decide_true,
    Bool.true_and, decide_eq_false_iff_not] at low
  omega

theorem isAlphabetic_of_isAlpha (letter : c.isAlpha = true) : isAlphabetic c = true := by
  have first : ∀ range ∈ [(65, 90), (97, 122)], range ∈ alphabeticRanges := by decide +kernel
  rcases Bool.or_eq_true_iff.mp letter with capital | small
  · exact isWithin_iff.mpr ⟨_, first (65, 90) (by decide), DateText.toNat_of_isUpper capital⟩
  · rcases Bool.and_eq_true_iff.mp small with ⟨low, high⟩
    exact isWithin_iff.mpr
      ⟨_, first (97, 122) (by decide), of_decide_eq_true low, of_decide_eq_true high⟩

end Text
namespace DurationText

variable {digits gap numeral rest text whole word : List Char} {fraction : Option (List Char)}
  {grain : Grain}

theorem isAlphabetic_of_isUnitLetter (letter : isUnitLetter c = true) :
    Text.isAlphabetic c = true := by
  rw [isUnitLetter, Bool.or_eq_true, beq_iff_eq] at letter
  rcases letter with alphabet | rfl
  · exact Text.isAlphabetic_of_isAlpha alphabet
  · decide +kernel

theorem isDigit_eq_false_of_isAlphabetic (alphabetic : Text.isAlphabetic c = true) :
    c.isDigit = false := by
  have late := Text.lt_toNat_of_isAlphabetic alphabetic
  rw [← Bool.not_eq_true, DateText.isDigit_iff_toNat]
  omega

theorem isNumeral_eq_false_of_isAlphabetic (alphabetic : Text.isAlphabetic c = true) :
    isNumeral c = false := by
  have late := Text.lt_toNat_of_isAlphabetic alphabetic
  rw [isNumeral, isDigit_eq_false_of_isAlphabetic alphabetic, Bool.false_or, beq_eq_false_iff_ne]
  rintro rfl
  exact absurd late (by decide)

theorem isSeparator_eq_false (inked : Text.isBlank c = false) (noComma : c ≠ ',')
    (noPlus : c ≠ '+') :
    isSeparator c = false := by
  simp only [isSeparator, inked, beq_eq_false_iff_ne.mpr noComma, beq_eq_false_iff_ne.mpr noPlus,
    Bool.or_false]

theorem isSeparator_eq_false_of_isAlphabetic (alphabetic : Text.isAlphabetic c = true) :
    isSeparator c = false := by
  have late := Text.lt_toNat_of_isAlphabetic alphabetic
  apply isSeparator_eq_false (Text.isBlank_of_isAlphabetic alphabetic)
  · rintro rfl
    exact absurd late (by decide)
  · rintro rfl
    exact absurd late (by decide)

theorem isDigitOrBlank_eq_false_of_isAlphabetic (alphabetic : Text.isAlphabetic c = true) :
    isDigitOrBlank c = false := by
  rw [isDigitOrBlank, isDigit_eq_false_of_isAlphabetic alphabetic,
    Text.isBlank_of_isAlphabetic alphabetic, Bool.or_self]

theorem isNumeral_iff : isNumeral c = true ↔ c.isDigit = true ∨ c = '.' := by
  rw [isNumeral, Bool.or_eq_true, beq_iff_eq]

theorem isBlank_of_isNumeral (numeral : isNumeral c = true) : Text.isBlank c = false := by
  rcases isNumeral_iff.mp numeral with digit | rfl
  · exact Text.isBlank_of_isDigit digit
  · decide

theorem isSeparator_eq_false_of_isNumeral (numeral : isNumeral c = true) :
    isSeparator c = false := by
  apply isSeparator_eq_false (isBlank_of_isNumeral numeral)
  · rintro rfl
    contradiction
  · rintro rfl
    contradiction

/-! ## Units -/

/-- A word of unit letters. -/
structure UnitWord (word : List Char) : Prop where
  nonempty : word ≠ []
  letters : ∀ c ∈ word, isUnitLetter c = true

theorem unitWord_of_grainOf? (named : grainOf? word = some grain) : UnitWord word := by
  have every : ∀ grain ∈ Grain.all, ∀ spelling ∈ spellings grain, spelling.toList.isEmpty = false ∧
      spelling.toList.all isUnitLetter = true := by
    decide
  rcases every grain grain.mem_all _ (mem_spellings_of_grainOf? named) with ⟨nonempty, letters⟩
  rw [String.toList_ofList] at nonempty letters
  exact ⟨List.isEmpty_eq_false_iff.mp nonempty, List.all_eq_true.mp letters⟩

theorem UnitWord.alphabetic (unitWord : UnitWord word) (listed : c ∈ word) :
    Text.isAlphabetic c = true :=
  isAlphabetic_of_isUnitLetter (unitWord.letters c listed)

theorem UnitWord.stops (unitWord : UnitWord word) {wanted : Char -> Bool}
    (apart : ∀ {c}, Text.isAlphabetic c = true -> wanted c = false) (rest : List Char) :
    Text.Stops wanted (word ++ rest) :=
  Text.stops_append_of_ne_nil (fun _ listed => apart (unitWord.alphabetic listed))
    unitWord.nonempty rest

/-! ## Exact terms -/

theorem readSpacedDigits_append (filled : ∀ c ∈ digits, c.isDigit = true)
    (blanks : ∀ c ∈ gap, Text.isBlank c = true) (stops : Text.Stops isDigitOrBlank rest) :
    readSpacedDigits (digits ++ (gap ++ rest)) = (digits, rest) := by
  have spaced : ∀ c ∈ digits ++ gap, isDigitOrBlank c = true := by
    intro c listed
    rw [isDigitOrBlank, Bool.or_eq_true]
    exact (List.mem_append.mp listed).imp (filled c) (blanks c)
  have noDigits : gap.filter Char.isDigit = [] := by
    apply List.filter_eq_nil_iff.mpr
    intro c listed
    rw [Text.eq_false_of_apart Text.isBlank_of_isDigit (blanks c listed)]
    exact Bool.false_ne_true
  rw [readSpacedDigits, ← List.append_assoc, Text.takeWhile_append_of_stops spaced stops,
    Text.dropWhile_append_of_stops spaced stops, List.filter_append, List.filter_eq_self.mpr filled,
    noDigits, List.append_nil]

theorem readSpacedFraction_of_stops (stops : Text.Stops isNumeral rest) :
    readSpacedFraction rest = (none, rest) := by
  unfold readSpacedFraction
  split
  next behind => exact absurd (stops '.' rfl) (by decide)
  next => rfl

/-- A term is read from its number, its unit and a place where a unit may end. -/
theorem readExactTerm_of_reads {afterWhole : List Char}
    (begins : text.head?.any Char.isDigit = true)
    (number : readSpacedDigits text = (whole, afterWhole))
    (behind : readSpacedFraction afterWhole = (fraction, word ++ rest))
    (named : grainOf? word = some grain) (ends : endsUnit rest = true) :
    readExactTerm text = some (⟨whole, fraction, grain⟩, rest) := by
  have unitWord := unitWord_of_grainOf? named
  have stops : Text.Stops isUnitLetter rest := by
    cases rest with
    | nil => exact Text.stops_nil _
    | cons c others =>
        apply Text.stops_cons
        apply Text.eq_false_of_apart _ (show isDigitOrBlank c = true from ends)
        exact fun letter =>
          isDigitOrBlank_eq_false_of_isAlphabetic (isAlphabetic_of_isUnitLetter letter)
  unfold readExactTerm
  simp only [begins, number, behind, Text.takeWhile_append_of_stops unitWord.letters stops,
    Text.dropWhile_append_of_stops unitWord.letters stops, named, ends, Bool.not_true,
    Bool.false_eq_true, if_false, if_true]

theorem exists_digit_of_readExactTerm {term : ExactTerm}
    (read : readExactTerm text = some (term, rest)) :
    ∃ c others, text = c :: others ∧ c.isDigit = true := by
  unfold readExactTerm at read
  split at read
  next => contradiction
  next begins =>
    rw [Bool.not_eq_true', Bool.not_eq_false] at begins
    cases text with
    | nil => contradiction
    | cons c others => exact ⟨c, others, rfl, begins⟩

theorem exactTerms?_nil : exactTerms? [] = some [] := by
  unfold exactTerms?
  rfl

/-- Behind the first term the others are read. -/
theorem exactTerms?_cons (rest : List Char) (inked : Text.isBlank c = false) :
    exactTerms? (c :: rest) =
      (readExactTerm (c :: rest)).bind fun read => (exactTerms? read.2).map (read.1 :: ·) := by
  have trimmed := Text.trimStart_cons rest inked
  rw [exactTerms?.eq_def (c :: rest)]
  simp only [trimmed, List.isEmpty_cons, Bool.false_eq_true, if_false]
  split
  next read =>
    rw [trimmed] at read
    rw [read, Option.bind_some]
  next read =>
    rw [trimmed] at read
    rw [read, Option.bind_none]

/-- A text that is one term. -/
theorem exactNanoseconds?_of_readExactTerm {term : ExactTerm}
    (read : readExactTerm text = some (term, [])) :
    exactNanoseconds? text = extendTerm? 0 term := by
  rcases exists_digit_of_readExactTerm read with ⟨c, others, rfl, digit⟩
  have terms : exactTerms? (c :: others) = some [term] := by
    rw [exactTerms?_cons others (Text.isBlank_of_isDigit digit), read, Option.bind_some,
      exactTerms?_nil]
    rfl
  simp [exactNanoseconds?, terms]

/-! ## Decimal terms -/

/-- The runs of characters that a term is written in. -/
structure TermRuns (numeral gap word separators : List Char) : Prop where
  someNumeral : numeral ≠ []
  numerals : ∀ c ∈ numeral, isNumeral c = true
  blanks : ∀ c ∈ gap, Text.isBlank c = true
  someLetter : word ≠ []
  alphabetic : ∀ c ∈ word, Text.isAlphabetic c = true
  separated : ∀ c ∈ separators, isSeparator c = true

/-- A text that another term may stand in front of: it begins with a number, or it is empty. -/
def MayFollow (rest : List Char) : Prop :=
  ∀ c ∈ rest.head?, isNumeral c = true

theorem mayFollow_nil : MayFollow [] :=
  fun _ impossible => nomatch impossible

theorem MayFollow.afterSeparators (follows : MayFollow rest) : Text.Stops isSeparator rest :=
  fun c first => isSeparator_eq_false_of_isNumeral (follows c first)

namespace TermRuns

variable {separators : List Char} {magnitude : Binary64}

theorem afterNumeral (runs : TermRuns numeral gap word separators) (rest : List Char) :
    Text.Stops isNumeral (gap ++ (word ++ rest)) := by
  apply Text.stops_append
  · exact fun c listed => Text.eq_false_of_apart isBlank_of_isNumeral (runs.blanks c listed)
  · exact Text.stops_append_of_ne_nil
      (fun c listed => isNumeral_eq_false_of_isAlphabetic (runs.alphabetic c listed))
        runs.someLetter _

theorem afterGap (runs : TermRuns numeral gap word separators) (rest : List Char) :
    Text.Stops Text.isBlank (word ++ rest) :=
  Text.stops_append_of_ne_nil (fun c listed =>
    Text.isBlank_of_isAlphabetic (runs.alphabetic c listed)) runs.someLetter _

theorem afterWord (runs : TermRuns numeral gap word separators) (follows : MayFollow rest) :
    Text.Stops Text.isAlphabetic (separators ++ rest) := by
  apply Text.stops_append
  · exact fun c listed =>
      Text.eq_false_of_apart isSeparator_eq_false_of_isAlphabetic (runs.separated c listed)
  · exact fun c first =>
      Text.eq_false_of_apart isNumeral_eq_false_of_isAlphabetic (follows c first)

/-- A term is read back from its runs. -/
theorem readDecimalTerm_eq (runs : TermRuns numeral gap word separators)
    (reads : Binary64.ofText? numeral = some magnitude) (named : grainOf? word = some grain)
    (follows : MayFollow rest) :
    readDecimalTerm (numeral ++ (gap ++ (word ++ (separators ++ rest)))) =
      some (⟨magnitude, grain⟩, rest) := by
  have letters := (unitWord_of_grainOf? named).letters
  have afterNumeral := runs.afterNumeral (separators ++ rest)
  have afterGap := runs.afterGap (separators ++ rest)
  have afterSeparators := follows.afterSeparators
  have afterLetters : Text.Stops isUnitLetter (separators ++ rest) := by
    intro c first
    rw [← Bool.not_eq_true]
    intro letter
    exact Bool.false_ne_true
      ((runs.afterWord follows c first).symm.trans (isAlphabetic_of_isUnitLetter letter))
  simp only [readDecimalTerm, Text.trimStart,
    Text.takeWhile_append_of_stops runs.numerals afterNumeral,
    Text.dropWhile_append_of_stops runs.numerals afterNumeral,
    Text.dropWhile_append_of_stops runs.blanks afterGap,
    Text.takeWhile_append_of_stops letters afterLetters,
    Text.dropWhile_append_of_stops letters afterLetters,
    Text.dropWhile_append_of_stops runs.separated afterSeparators,
    List.isEmpty_eq_false_iff.mpr runs.someNumeral, reads, named, Bool.false_eq_true, if_false]

end TermRuns

/-- One round of the reader takes the runs of a term from the text. -/
theorem exists_termRuns_of_readDecimalTerm {term : DecimalTerm}
    (read : readDecimalTerm text = some (term, rest)) :
    ∃ numeral gap word separators, text = numeral ++ (gap ++ (word ++ (separators ++ rest))) ∧
      TermRuns numeral gap word separators ∧ Binary64.ofText? numeral = some term.magnitude ∧
      grainOf? word = some term.grain := by
  unfold readDecimalTerm at read
  simp only at read
  split at read
  next => contradiction
  next someNumeral =>
    split at read
    next magnitude grain reads named =>
      simp only [Option.some.injEq, Prod.mk.injEq] at read
      obtain ⟨rfl, rfl⟩ := read
      have unitWord := unitWord_of_grainOf? named
      refine ⟨_, (text.dropWhile isNumeral).takeWhile Text.isBlank, _,
        ((Text.trimStart (text.dropWhile isNumeral)).dropWhile isUnitLetter).takeWhile isSeparator,
        ?_, ?_, reads, named⟩
      · rw [List.takeWhile_append_dropWhile, List.takeWhile_append_dropWhile, Text.trimStart,
          List.takeWhile_append_dropWhile, List.takeWhile_append_dropWhile]
      · exact ⟨mt List.isEmpty_iff.mpr someNumeral, fun _ =>
          Text.mem_takeWhile, fun _ => Text.mem_takeWhile, unitWord.nonempty, fun _ =>
          unitWord.alphabetic, fun _ => Text.mem_takeWhile⟩
    next => contradiction

theorem decimalTerms?_nil : decimalTerms? [] = some [] := by
  unfold decimalTerms?
  rfl

/-- What a term adds to a length, in milliseconds. -/
def DecimalTerm.milliseconds (term : DecimalTerm) : Binary64 :=
  term.magnitude * millisecondsOf (nominalNanoseconds term.grain)

theorem sumMilliseconds_eq (terms : List DecimalTerm) :
    sumMilliseconds terms = (terms.map DecimalTerm.milliseconds).foldl (· + ·) 0 := by
  rw [List.foldl_map]
  rfl

theorem decimalTerms?_cons (c : Char) (rest : List Char) :
    decimalTerms? (c :: rest) =
      (readDecimalTerm (c :: rest)).bind fun read => (decimalTerms? read.2).map (read.1 :: ·) := by
  rw [decimalTerms?.eq_def (c :: rest)]
  simp only [List.isEmpty_cons, Bool.false_eq_true, if_false]
  split
  next read => rw [read, Option.bind_some]
  next read => rw [read, Option.bind_none]

theorem decimalTerms?_of_readDecimalTerm {term : DecimalTerm}
    (read : readDecimalTerm text = some (term, rest)) :
    decimalTerms? text = (decimalTerms? rest).map (term :: ·) := by
  cases text with
  | nil => contradiction
  | cons c others => rw [decimalTerms?_cons, read, Option.bind_some]

end DurationText
end Chronometry
