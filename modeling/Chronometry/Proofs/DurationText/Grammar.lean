import Chronometry.Proofs.DurationText.Counted

/-!
# The grammar of decimal terms

A text of decimal terms is a row of written terms: a number of digits and points, blanks, the
letters of a unit, and separators.  The units are the words that make a length when a one is put in
front of them; this is how the first grammar is asked for the length of a unit.  The reader of
decimal terms accepts the texts that are rows of written terms, each text is such a row in one way
only, and the sum that is read is the sum of the row.
-/

namespace Chronometry
namespace DurationText

variable {rest word : List Char}

/-! ## Units -/

/-- Where a word is more than its unit, a letter follows that belongs to no unit. -/
theorem endsUnit_dropWhile_eq_false (alphabetic : ∀ c ∈ word, Text.isAlphabetic c = true)
    (longer : word.takeWhile isUnitLetter ≠ word) :
    endsUnit (word.dropWhile isUnitLetter) = false := by
  cases stopped : word.dropWhile isUnitLetter with
  | nil =>
      have parts : word.takeWhile isUnitLetter ++ word.dropWhile isUnitLetter = word :=
        List.takeWhile_append_dropWhile
      rw [stopped, List.append_nil] at parts
      exact absurd parts longer
  | cons c others =>
      have listed : c ∈ word := (List.dropWhile_sublist _).mem (stopped ▸ List.mem_cons_self)
      exact isDigitOrBlank_eq_false_of_isAlphabetic (alphabetic c listed)

/-- A word that names no grain is no unit, also if it begins with one: the unit cannot end in front
of a letter. -/
theorem readExactTerm_one_eq_none (alphabetic : ∀ c ∈ word, Text.isAlphabetic c = true)
    (nameless : grainOf? word = none) :
    readExactTerm ('1' :: word) = none := by
  have afterOne : Text.Stops isDigitOrBlank (word ++ []) :=
    Text.stops_append (fun c listed =>
      isDigitOrBlank_eq_false_of_isAlphabetic (alphabetic c listed)) (Text.stops_nil _)
  have noPoint : Text.Stops isNumeral (word ++ []) :=
    Text.stops_append (fun c listed => isNumeral_eq_false_of_isAlphabetic (alphabetic c listed))
      (Text.stops_nil _)
  rw [List.append_nil] at afterOne noPoint
  have number : readSpacedDigits (['1'] ++ ([] ++ word)) = (['1'], word) :=
    readSpacedDigits_append (List.forall_mem_singleton.mpr rfl) (fun _ listed =>
      nomatch listed) afterOne
  have begins : ('1' :: word).head?.any Char.isDigit = true := rfl
  change readSpacedDigits ('1' :: word) = _ at number
  unfold readExactTerm
  simp only [begins, number, readSpacedFraction_of_stops noPoint, Bool.not_true,
    Bool.false_eq_true, if_false]
  split
  next grain named =>
    have longer : word.takeWhile isUnitLetter ≠ word := by
      intro whole
      rw [whole, nameless] at named
      contradiction
    rw [endsUnit_dropWhile_eq_false alphabetic longer, if_neg Bool.false_ne_true]
  next => rfl

/-- A word of letters has a length behind a one exactly when it names a grain. -/
theorem exactNanoseconds?_one (alphabetic : ∀ c ∈ word, Text.isAlphabetic c = true) :
    exactNanoseconds? ('1' :: word) = (grainOf? word).map nominalNanoseconds := by
  cases named : grainOf? word with
  | some grain =>
      have single : SingleTerm ['1'] [] word (wholeTerm 1 grain) :=
        singleTerm_counted 1 (fun _ listed => nomatch listed) named
      have read : exactNanoseconds? ('1' :: word) = extendTerm? 0 (wholeTerm 1 grain) :=
        single.exactNanoseconds?_eq
      have fits : FitsWord 1 grain := by cases grain <;> decide
      rw [read, extendTerm?_wholeTerm, if_pos fits, Nat.one_mul, Option.map_some]
  | none =>
      have terms : exactTerms? ('1' :: word) = none := by
        rw [exactTerms?_cons word (by decide), readExactTerm_one_eq_none alphabetic named,
          Option.bind_none]
      rw [exactNanoseconds?, terms]
      rfl

/-! ## Written terms -/

/-- A term as it is written, with the number and the length that its characters denote. -/
structure WrittenTerm where
  numeral : List Char
  gap : List Char
  word : List Char
  separators : List Char
  magnitude : Binary64
  unitLength : Nat
  runs : TermRuns numeral gap word separators
  reads : Binary64.ofText? numeral = some magnitude
  accepted : exactNanoseconds? ('1' :: word) = some unitLength

namespace WrittenTerm

/-- The characters of a term. -/
def text (written : WrittenTerm) : List Char :=
  written.numeral ++ (written.gap ++ (written.word ++ written.separators))

/-- The length of a term in milliseconds. -/
def milliseconds (written : WrittenTerm) : Binary64 :=
  written.magnitude * millisecondsOf written.unitLength

theorem exists_grain (written : WrittenTerm) :
    ∃ grain,
      grainOf? written.word = some grain ∧ nominalNanoseconds grain = written.unitLength := by
  have accepted := written.accepted
  rw [exactNanoseconds?_one written.runs.alphabetic] at accepted
  exact Option.map_eq_some_iff.mp accepted

theorem text_append (written : WrittenTerm) (rest : List Char) :
    written.text ++ rest =
      written.numeral ++ (written.gap ++ (written.word ++ (written.separators ++ rest))) := by
  simp only [text, List.append_assoc]

theorem mayFollow_text_append (written : WrittenTerm) (rest : List Char) :
    MayFollow (written.text ++ rest) := by
  rcases List.exists_cons_of_ne_nil written.runs.someNumeral with ⟨first, others, spelled⟩
  rw [text_append, spelled, List.cons_append]
  intro c head
  rw [← Option.some.inj head]
  exact written.runs.numerals first (spelled ▸ List.mem_cons_self)

/-- A term has a character of its number and a letter of its unit at least. -/
theorem two_le_length_text (written : WrittenTerm) : 2 ≤ written.text.length := by
  have numeral := List.length_pos_iff.mpr written.runs.someNumeral
  have word := List.length_pos_iff.mpr written.runs.someLetter
  simp only [text, List.length_append]
  omega

end WrittenTerm

/-- The characters of a row of terms. -/
def writtenText (terms : List WrittenTerm) : List Char :=
  terms.flatMap WrittenTerm.text

/-- The length of a row of terms in milliseconds, added up from the left. -/
def writtenSum (terms : List WrittenTerm) : Binary64 :=
  terms.foldl (fun total written => total + written.milliseconds) 0

theorem writtenText_cons (written : WrittenTerm) (others : List WrittenTerm) :
    writtenText (written :: others) = written.text ++ writtenText others :=
  List.flatMap_cons

theorem writtenSum_eq (terms : List WrittenTerm) :
    writtenSum terms = (terms.map WrittenTerm.milliseconds).foldl (· + ·) 0 := by
  rw [List.foldl_map]
  rfl

theorem mayFollow_writtenText (terms : List WrittenTerm) : MayFollow (writtenText terms) := by
  cases terms with
  | nil => exact mayFollow_nil
  | cons written others =>
      rw [writtenText_cons]
      exact written.mayFollow_text_append _

/-! ## Rows of terms are read -/

theorem WrittenTerm.exists_readDecimalTerm (written : WrittenTerm) (follows : MayFollow rest) :
    ∃ term, readDecimalTerm (written.text ++ rest) = some (term, rest) ∧
      term.milliseconds = written.milliseconds := by
  rcases written.exists_grain with ⟨grain, named, length⟩
  refine ⟨⟨written.magnitude, grain⟩, ?_,
    by rw [DecimalTerm.milliseconds, length, milliseconds]⟩
  rw [written.text_append]
  exact written.runs.readDecimalTerm_eq written.reads named follows

/-- By induction on the row: what follows its first term is a row of terms again. -/
theorem exists_decimalTerms?_writtenText (terms : List WrittenTerm) :
    ∃ read, decimalTerms? (writtenText terms) = some read ∧
      read.map DecimalTerm.milliseconds = terms.map WrittenTerm.milliseconds := by
  induction terms with
  | nil => exact ⟨[], decimalTerms?_nil, rfl⟩
  | cons written others inductionHypothesis =>
      rcases inductionHypothesis with ⟨read, readOthers, lengths⟩
      rcases written.exists_readDecimalTerm (mayFollow_writtenText others)
        with ⟨term, readFirst, length⟩
      refine ⟨term :: read, ?_, ?_⟩
      · rw [writtenText_cons, decimalTerms?_of_readDecimalTerm readFirst, readOthers,
          Option.map_some]
      · rw [List.map_cons, List.map_cons, lengths, length]

theorem decimalMilliseconds?_writtenText (terms : List WrittenTerm) :
    decimalMilliseconds? (writtenText terms) = some (writtenSum terms) := by
  rcases exists_decimalTerms?_writtenText terms with ⟨read, found, lengths⟩
  rw [decimalMilliseconds?, found, Option.map_some, sumMilliseconds_eq, lengths, ← writtenSum_eq]

/-! ## What is read is a row of terms -/

variable {text : List Char}

/-- One round of the reader takes a written term from the text. -/
theorem exists_written_of_readDecimalTerm {term : DecimalTerm}
    (read : readDecimalTerm text = some (term, rest)) :
    ∃ written : WrittenTerm,
      text = written.text ++ rest ∧ term.milliseconds = written.milliseconds := by
  rcases exists_termRuns_of_readDecimalTerm read
    with ⟨numeral, gap, word, separators, parts, runs, reads, named⟩
  have accepted : exactNanoseconds? ('1' :: word) = some (nominalNanoseconds term.grain) := by
    rw [exactNanoseconds?_one runs.alphabetic, named, Option.map_some]
  refine ⟨⟨numeral, gap, word, separators, term.magnitude, nominalNanoseconds term.grain, runs,
    reads, accepted⟩, ?_, rfl⟩
  rw [WrittenTerm.text_append, parts]

/-- By induction on the rounds of the reader, each of which takes a written term. -/
theorem exists_written_of_decimalTerms? {terms : List DecimalTerm}
    (read : decimalTerms? text = some terms) :
    ∃ written, writtenText written = text ∧
      written.map WrittenTerm.milliseconds = terms.map DecimalTerm.milliseconds := by
  fun_induction decimalTerms? text generalizing terms
  case case1 text empty =>
    rw [List.isEmpty_iff.mp empty, ← Option.some.inj read]
    exact ⟨[], rfl, rfl⟩
  case case2 text nonempty term rest readTerm shorter inductionHypothesis =>
    rcases Option.map_eq_some_iff.mp read with ⟨others, readOthers, rfl⟩
    rcases inductionHypothesis readOthers with ⟨written, rfl, lengths⟩
    rcases exists_written_of_readDecimalTerm readTerm with ⟨first, rfl, length⟩
    refine ⟨first :: written, writtenText_cons first written, ?_⟩
    rw [List.map_cons, List.map_cons, lengths, length]
  case case3 => contradiction

theorem decimalMilliseconds?_eq_some_iff {total : Binary64} :
    decimalMilliseconds? text = some total ↔
      ∃ terms, writtenText terms = text ∧ writtenSum terms = total := by
  constructor
  · intro read
    rcases Option.map_eq_some_iff.mp read with ⟨terms, found, rfl⟩
    rcases exists_written_of_decimalTerms? found with ⟨written, spelled, lengths⟩
    exact ⟨written, spelled, by rw [writtenSum_eq, lengths, ← sumMilliseconds_eq]⟩
  · rintro ⟨terms, rfl, rfl⟩
    exact decimalMilliseconds?_writtenText terms

theorem decimalMilliseconds?_eq_none_iff :
    decimalMilliseconds? text = none ↔ ∀ terms, writtenText terms ≠ text := by
  rw [Option.eq_none_iff_forall_ne_some]
  constructor
  · exact fun refused terms spelled =>
      refused _ (decimalMilliseconds?_eq_some_iff.mpr ⟨terms, spelled, rfl⟩)
  · intro unwritten total read
    rcases decimalMilliseconds?_eq_some_iff.mp read with ⟨terms, spelled, _⟩
    exact unwritten terms spelled

/-! ## A row is read in one way -/

/-- Every run of a term ends where another class of characters begins, and so its runs are those of
the text. -/
theorem WrittenTerm.unique {first second : WrittenTerm} {rest' : List Char}
    (follows : MayFollow rest) (follows' : MayFollow rest')
    (same : first.text ++ rest = second.text ++ rest') :
    first = second ∧ rest = rest' := by
  rw [text_append, text_append] at same
  rcases first
    with ⟨numeral, gap, word, separators, magnitude, unitLength, runs, reads, accepted⟩
  rcases second
    with ⟨numeral', gap', word', separators', magnitude', unitLength', runs', reads', accepted'⟩
  rcases Text.run_unique runs.numerals (runs.afterNumeral _) runs'.numerals (runs'.afterNumeral _)
    same with ⟨rfl, sameGap⟩
  rcases Text.run_unique runs.blanks (runs.afterGap _) runs'.blanks (runs'.afterGap _) sameGap
    with ⟨rfl, sameWord⟩
  rcases Text.run_unique runs.alphabetic (runs.afterWord follows) runs'.alphabetic
    (runs'.afterWord follows') sameWord with ⟨rfl, sameEnd⟩
  rcases Text.run_unique runs.separated follows.afterSeparators runs'.separated
    follows'.afterSeparators sameEnd with ⟨rfl, rfl⟩
  obtain rfl := Option.some.inj (reads.symm.trans reads')
  obtain rfl := Option.some.inj (accepted.symm.trans accepted')
  exact ⟨rfl, rfl⟩

theorem writtenText_injective {first second : List WrittenTerm}
    (same : writtenText first = writtenText second) :
    first = second := by
  induction first generalizing second with
  | nil =>
      cases second with
      | nil => rfl
      | cons written others =>
          have long := written.two_le_length_text
          have none := congrArg List.length same
          rw [writtenText_cons, List.length_append] at none
          change 0 = _ at none
          omega
  | cons written others inductionHypothesis =>
      cases second with
      | nil =>
          have long := written.two_le_length_text
          have none := congrArg List.length same
          rw [writtenText_cons, List.length_append] at none
          change _ = 0 at none
          omega
      | cons written' others' =>
          rw [writtenText_cons, writtenText_cons] at same
          rcases WrittenTerm.unique (mayFollow_writtenText others) (mayFollow_writtenText others')
            same with ⟨rfl, later⟩
          rw [inductionHypothesis later]

/-! ## The grammar -/

theorem two_mul_length_le (terms : List WrittenTerm) :
    2 * terms.length ≤ (writtenText terms).length := by
  induction terms with
  | nil => exact Nat.zero_le _
  | cons written others inductionHypothesis =>
      have long := written.two_le_length_text
      rw [writtenText_cons, List.length_append, List.length_cons]
      omega

/-- A text is read as the row of terms that it is written as. -/
structure ReadAsWritten (text : List Char) : Prop where
  sum : ∀ total, decimalMilliseconds? text = some total ↔
    ∃ terms, writtenText terms = text ∧ writtenSum terms = total
  refused : decimalMilliseconds? text = none ↔ ∀ terms, writtenText terms ≠ text
  unique : ∀ first second, writtenText first = text -> writtenText second = text -> first = second
  maximal : ∀ before written after, writtenText (before ++ written :: after) = text ->
    Text.Stops Text.isAlphabetic (written.separators ++ writtenText after)
  round : ∀ term rest, readDecimalTerm text = some (term, rest) ->
    ∃ written : WrittenTerm,
      text = written.text ++ rest ∧ term.milliseconds = written.milliseconds ∧
      written.numeral ≠ [] ∧ written.word ≠ []
  rounds : ∀ terms, decimalTerms? text = some terms -> 2 * terms.length ≤ text.length

/-- The reader of decimal terms accepts exactly the rows of written terms and adds them up from the
left.  No text is such a row in two ways, every round takes a digit or a point and a letter, and the
numbers are the texts of digits and points with a digit and at most one point. -/
theorem decimal_terms_are_read_as_written (text : List Char) :
    ReadAsWritten text ∧
      ∀ numeral : List Char, (∀ c ∈ numeral, isNumeral c = true) ->
        ((Binary64.ofText? numeral).isSome = true ↔
          (∃ c ∈ numeral, c.isDigit = true) ∧ numeral.count '.' ≤ 1) := by
  refine ⟨⟨fun _ =>
    decimalMilliseconds?_eq_some_iff, decimalMilliseconds?_eq_none_iff, ?_, ?_, ?_, ?_⟩, ?_⟩
  · exact fun first second left right => writtenText_injective (left.trans right.symm)
  · exact fun before written after _ => written.runs.afterWord (mayFollow_writtenText after)
  · intro term rest read
    rcases exists_written_of_readDecimalTerm read with ⟨written, parts, length⟩
    exact ⟨written, parts, length, written.runs.someNumeral, written.runs.someLetter⟩
  · intro terms read
    rcases exists_written_of_decimalTerms? read with ⟨written, rfl, lengths⟩
    have same := congrArg List.length lengths
    rw [List.length_map, List.length_map] at same
    rw [← same]
    exact two_mul_length_le written
  · intro numeral numerals
    exact Binary64.isSome_ofText?_iff fun c listed => isNumeral_iff.mp (numerals c listed)

example : decimalMilliseconds? "1.5h, 30m + 250ms".toList = some (.ofInt 7200250) := by
  decide +kernel

end DurationText
end Chronometry
