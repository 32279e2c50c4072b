import Chronometry.Proofs.DurationText.Terms

/-!
# What a duration text begins with

Whichever grammar reads it, a duration text that is not blank begins with a digit, a point or a
sign.  The words for infinite numbers are read by the grammar of numbers, and are no durations.
-/

namespace Chronometry
namespace DurationText

variable {c : Char} {rest text : List Char}

/-- A character that no duration text begins with, where blanks are left out. -/
structure NoBeginning (c : Char) : Prop where
  notNumeral : isNumeral c = false
  notBlank : Text.isBlank c = false
  notMinus : c ≠ '-'
  notPlus : c ≠ '+'

theorem NoBeginning.notDigit (none : NoBeginning c) : c.isDigit = false :=
  (Bool.or_eq_false_iff.mp none.notNumeral).1

theorem NoBeginning.notPoint (none : NoBeginning c) : c ≠ '.' :=
  beq_eq_false_iff_ne.mp (Bool.or_eq_false_iff.mp none.notNumeral).2

theorem decimal?_eq_none (none : NoBeginning c) (negative : Bool) :
    Binary64.decimal? negative (c :: rest) = .none := by
  have noDigit : ¬c.isDigit = true := by simp [none.notDigit]
  have span : Text.spanDigits (c :: rest) = ([], c :: rest) := by
    rw [Text.spanDigits, List.takeWhile_cons_of_neg noDigit, List.dropWhile_cons_of_neg noDigit]
  simp only [Binary64.decimal?, span, Binary64.readFraction_of_pointless rest none.notPoint,
    List.isEmpty_nil, Bool.and_self, if_true]

/-- A number that begins otherwise is not finite. -/
theorem isFinite_eq_false_of_ofText? (none : NoBeginning c) {number : Binary64}
    (read : Binary64.ofText? (c :: rest) = some number) : number.isFinite = false := by
  simp only [Binary64.ofText?, Binary64.readSign_of_unsigned rest none.notMinus none.notPlus,
    decimal?_eq_none none] at read
  split at read
  next => exact Option.some.inj read ▸ rfl
  next =>
    split at read
    next => exact Option.some.inj read ▸ rfl
    next => contradiction

theorem exactTerms?_eq_none (none : NoBeginning c) : exactTerms? (c :: rest) = .none := by
  have noTerm : readExactTerm (c :: rest) = .none := by simp [readExactTerm, none.notDigit]
  rw [exactTerms?_cons rest none.notBlank, noTerm, Option.bind_none]

theorem decimalTerms?_eq_none (none : NoBeginning c) : decimalTerms? (c :: rest) = .none := by
  have noTerm : readDecimalTerm (c :: rest) = .none := by simp [readDecimalTerm, none.notNumeral]
  rw [decimalTerms?_cons, noTerm, Option.bind_none]

theorem bodyMilliseconds?_eq_none (none : NoBeginning c) :
    bodyMilliseconds? (c :: rest) = .none := by
  unfold bodyMilliseconds?
  cases number : Binary64.ofText? (c :: rest) with
  | some value => simp [isFinite_eq_false_of_ofText? none number]
  | none =>
      simp [exactNanoseconds?, exactTerms?_eq_none none, decimalMilliseconds?,
        decimalTerms?_eq_none none]

/-- A duration text is not blank, and it begins with a digit, a point or a sign. -/
theorem exists_beginning {length : Binary64} (read : milliseconds? text = some length) :
    ∃ c rest, Text.trim text = c :: rest ∧ ¬NoBeginning c := by
  rcases milliseconds?_eq_some_iff.mp read with ⟨nonempty, _, magnitude, readBody, _⟩
  cases trimmed : Text.trim text with
  | nil =>
      rw [trimmed] at nonempty
      exact absurd rfl nonempty
  | cons c rest =>
      refine ⟨c, rest, rfl, fun none => ?_⟩
      rw [trimmed, splitSign_of_unsigned rest none.notMinus none.notPlus,
        bodyMilliseconds?_eq_none none] at readBody
      contradiction

theorem inked_of_milliseconds? {length : Binary64} (read : milliseconds? text = some length) :
    Text.Inked text := by
  rcases exists_beginning read with ⟨c, rest, trimmed, _⟩
  by_cases inked : Text.Inked text
  · exact inked
  · rw [Text.trim_eq_nil_of_not_inked inked] at trimmed
    contradiction

/-- The same character is in front when only the start is trimmed. -/
theorem exists_beginning_of_trimStart {length : Binary64}
    (read : milliseconds? text = some length) :
    ∃ c rest, Text.trimStart text = c :: rest ∧ ¬NoBeginning c := by
  rcases Text.exists_trimStart_cons (inked_of_milliseconds? read)
    with ⟨c, rest, trimmed, notBlank⟩
  rcases exists_beginning read with ⟨first, others, both, begins⟩
  rw [Text.trim, trimmed, Text.trimEnd_cons rest notBlank] at both
  rw [← (List.cons.inj both).1] at begins
  exact ⟨c, rest, trimmed, begins⟩

/-- Blanks around a text do not count. -/
theorem milliseconds?_of_trim_eq {first second : List Char}
    (same : Text.trim first = Text.trim second) :
    milliseconds? first = milliseconds? second := by
  unfold milliseconds?
  rw [same]

end DurationText
end Chronometry
