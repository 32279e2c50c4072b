import Chronometry.DurationText.Basic
import Chronometry.Proofs.Text.Trim

/-!
# The characters of duration text

Whatever a duration text denotes, it is written in few characters.  Terms consist of digits, points,
separators and the letters of the units; a bare number may have signs and the letter of its exponent
as well, and no other letters, because the words for infinite numbers denote no duration.  A text
with any other character in it is no duration text, however it goes on before and behind that
character.
-/

namespace Chronometry
namespace DurationText

/-- The characters of terms: those of magnitudes, those between terms, and those of the words for
units. -/
inductive TermCharacter (c : Char) : Prop where
  | numeral (numeral : isNumeral c = true)
  | separator (separator : isSeparator c = true)
  | letter {grain : Grain} {spelling : String} (spelled : spelling ∈ spellings grain)
      (letter : c ∈ spelling.toList)

/-- The characters of durations: those of terms, and those that only a bare number has. -/
def LengthCharacter (c : Char) : Prop :=
  TermCharacter c ∨ c ∈ ['-', 'e', 'E']

variable {c : Char} {text rest : List Char}

theorem TermCharacter.of_isBlank (blank : Text.isBlank c = true) : TermCharacter c :=
  .separator (by simp only [isSeparator, blank, Bool.true_or])

theorem TermCharacter.of_isDigit (digit : c.isDigit = true) : TermCharacter c :=
  .numeral (by simp only [isNumeral, digit, Bool.true_or])

theorem TermCharacter.of_isDigitOrBlank (either : isDigitOrBlank c = true) : TermCharacter c := by
  rw [isDigitOrBlank, Bool.or_eq_true] at either
  rcases either with digit | blank
  · exact .of_isDigit digit
  · exact .of_isBlank blank

/-- A run of characters of a class, and what follows it, have the property that both have. -/
theorem forall_mem_of_run {property : Char -> Prop} {wanted : Char -> Bool}
    (run : ∀ c, wanted c = true -> property c)
    (rest : ∀ c ∈ text.dropWhile wanted, property c) :
    ∀ c ∈ text, property c := by
  intro c listed
  rw [← List.takeWhile_append_dropWhile (p := wanted) (l := text), List.mem_append] at listed
  rcases listed with inRun | inRest
  · exact run c (List.all_eq_true.mp List.all_takeWhile c inRun)
  · exact rest c inRest

/-! ## Terms -/

theorem mem_spellings_of_grainOf? {word : List Char} {grain : Grain}
    (named : grainOf? word = some grain) :
    String.ofList word ∈ spellings grain := by
  have found := List.find?_some named
  exact List.contains_iff_mem.mp found

/-- A unit and what follows it. -/
theorem termCharacter_of_word {grain : Grain}
    (named : grainOf? (text.takeWhile isUnitLetter) = some grain)
    (rest : ∀ c ∈ text.dropWhile isUnitLetter, TermCharacter c) :
    ∀ c ∈ text, TermCharacter c := by
  intro c listed
  rw [← List.takeWhile_append_dropWhile (p := isUnitLetter) (l := text),
    List.mem_append] at listed
  rcases listed with inWord | inRest
  · exact .letter (mem_spellings_of_grainOf? named) (by rwa [String.toList_ofList])
  · exact rest c inRest

theorem termCharacter_of_readSpacedFraction
    (rest : ∀ c ∈ (readSpacedFraction text).2, TermCharacter c) :
    ∀ c ∈ text, TermCharacter c := by
  unfold readSpacedFraction at rest
  split at rest
  next digits =>
    intro c listed
    rcases List.mem_cons.mp listed with rfl | later
    · exact .numeral rfl
    · exact forall_mem_of_run (fun _ => .of_isDigitOrBlank) rest c later
  next => exact rest

theorem termCharacter_of_readExactTerm {term : ExactTerm}
    (read : readExactTerm text = some (term, rest)) (after : ∀ c ∈ rest, TermCharacter c) :
    ∀ c ∈ text, TermCharacter c := by
  unfold readExactTerm at read
  split at read
  next => contradiction
  next =>
    simp only at read
    split at read
    next grain named =>
      split at read
      next =>
        simp only [Option.some.injEq, Prod.mk.injEq] at read
        obtain ⟨_, same⟩ := read
        subst same
        have word := termCharacter_of_word named after
        have fraction := termCharacter_of_readSpacedFraction word
        exact forall_mem_of_run (fun _ => .of_isDigitOrBlank) fraction
      next => contradiction
    next => contradiction

theorem termCharacter_of_exactTerms? {terms : List ExactTerm}
    (read : exactTerms? text = some terms) :
    ∀ c ∈ text, TermCharacter c := by
  fun_induction exactTerms? text generalizing terms
  case case1 text body empty =>
    have nothing : List.dropWhile Text.isBlank text = [] := List.isEmpty_iff.mp empty
    exact forall_mem_of_run (fun _ => .of_isBlank) fun c listed =>
      absurd (nothing ▸ listed) List.not_mem_nil
  case case2 text body nonempty term rest readTerm shorter inductionHypothesis =>
    rcases Option.map_eq_some_iff.mp read with ⟨others, readOthers, _⟩
    exact forall_mem_of_run (fun _ => .of_isBlank)
      (termCharacter_of_readExactTerm readTerm (inductionHypothesis readOthers))
  case case3 => contradiction

theorem termCharacter_of_readDecimalTerm {term : DecimalTerm}
    (read : readDecimalTerm text = some (term, rest)) (after : ∀ c ∈ rest, TermCharacter c) :
    ∀ c ∈ text, TermCharacter c := by
  unfold readDecimalTerm at read
  simp only at read
  split at read
  next => contradiction
  next =>
    split at read
    next magnitude grain _ named =>
      simp only [Option.some.injEq, Prod.mk.injEq] at read
      obtain ⟨_, same⟩ := read
      subst same
      have separated := forall_mem_of_run (fun _ => TermCharacter.separator) after
      have word := termCharacter_of_word named separated
      have spaced := forall_mem_of_run (fun _ => .of_isBlank) word
      exact forall_mem_of_run (fun _ => .numeral) spaced
    next => contradiction

theorem termCharacter_of_decimalTerms? {terms : List DecimalTerm}
    (read : decimalTerms? text = some terms) :
    ∀ c ∈ text, TermCharacter c := by
  fun_induction decimalTerms? text generalizing terms
  case case1 text empty => simp [List.isEmpty_iff.mp empty]
  case case2 text nonempty term rest readTerm shorter inductionHypothesis =>
    rcases Option.map_eq_some_iff.mp read with ⟨others, readOthers, _⟩
    exact termCharacter_of_readDecimalTerm readTerm (inductionHypothesis readOthers)
  case case3 => contradiction

/-! ## Numbers -/

theorem LengthCharacter.of_isDigit (digit : c.isDigit = true) : LengthCharacter c :=
  Or.inl (.of_isDigit digit)

/-- A sign and what follows it. -/
theorem lengthCharacter_of_readSign
    (rest : ∀ c ∈ (Binary64.readSign text).2, LengthCharacter c) :
    ∀ c ∈ text, LengthCharacter c := by
  unfold Binary64.readSign at rest
  split at rest
  next =>
    intro c listed
    rcases List.mem_cons.mp listed with rfl | later
    · exact Or.inr (by decide)
    · exact rest c later
  next =>
    intro c listed
    rcases List.mem_cons.mp listed with rfl | later
    · exact Or.inl (.separator (by decide))
    · exact rest c later
  next => exact rest

theorem lengthCharacter_of_exponent? {exponent : Int}
    (read : Binary64.exponent? text = some exponent) :
    ∀ c ∈ text, LengthCharacter c := by
  cases text with
  | nil => exact fun _ listed => nomatch listed
  | cons first rest =>
      simp only [Binary64.exponent?] at read
      split at read
      next letter =>
        split at read
        next => contradiction
        next readable =>
          simp only [Bool.or_eq_true, Bool.not_eq_true', not_or, Bool.not_eq_false] at readable
          have digits : ∀ c ∈ rest, LengthCharacter c := lengthCharacter_of_readSign fun c listed =>
            .of_isDigit (List.all_eq_true.mp readable.2 c listed)
          intro c listed
          rcases List.mem_cons.mp listed with rfl | later
          · rcases letter with rfl | rfl
            · exact Or.inr (by decide)
            · exact Or.inr (by decide)
          · exact digits c later
      next => contradiction

theorem lengthCharacter_of_readFraction
    (rest : ∀ c ∈ (Binary64.readFraction text).2, LengthCharacter c) :
    ∀ c ∈ text, LengthCharacter c := by
  unfold Binary64.readFraction at rest
  split at rest
  next digits =>
    intro c listed
    rcases List.mem_cons.mp listed with rfl | later
    · exact Or.inl (.numeral rfl)
    · exact forall_mem_of_run (fun _ => .of_isDigit) rest c later
  next => exact rest

theorem lengthCharacter_of_decimal? {negative : Bool} {number : Binary64}
    (read : Binary64.decimal? negative text = some number) : ∀ c ∈ text, LengthCharacter c := by
  simp only [Binary64.decimal?] at read
  split at read
  next => contradiction
  next =>
    rcases Option.map_eq_some_iff.mp read with ⟨exponent, readExponent, _⟩
    have fraction := lengthCharacter_of_readFraction (lengthCharacter_of_exponent? readExponent)
    exact forall_mem_of_run (fun _ => .of_isDigit) fraction

/-- A finite number is not written as a word. -/
theorem lengthCharacter_of_ofText? {number : Binary64} (read : Binary64.ofText? text = some number)
    (finite : number.isFinite = true) : ∀ c ∈ text, LengthCharacter c := by
  simp only [Binary64.ofText?] at read
  split at read
  next =>
    rw [← Option.some.inj read] at finite
    contradiction
  next =>
    split at read
    next =>
      rw [← Option.some.inj read] at finite
      contradiction
    next => exact lengthCharacter_of_readSign (lengthCharacter_of_decimal? read)

/-! ## Whole texts -/

theorem lengthCharacter_of_bodyMilliseconds? {length : Binary64}
    (read : bodyMilliseconds? text = some length) :
    ∀ c ∈ text, LengthCharacter c := by
  unfold bodyMilliseconds? at read
  split at read
  next number readNumber =>
    split at read
    next finite => exact lengthCharacter_of_ofText? readNumber finite
    next => contradiction
  next =>
    split at read
    next nanoseconds exact =>
      rcases Option.bind_eq_some_iff.mp exact with ⟨terms, readTerms, _⟩
      exact fun c listed => Or.inl (termCharacter_of_exactTerms? readTerms c listed)
    next =>
      rcases Option.map_eq_some_iff.mp read with ⟨terms, readTerms, _⟩
      exact fun c listed => Or.inl (termCharacter_of_decimalTerms? readTerms c listed)

/-- What a text denotes, by its body. -/
theorem milliseconds?_eq_some_iff {length : Binary64} :
    milliseconds? text = some length ↔
      (splitSign (Text.trim text)).2 ≠ [] ∧
        beginsSigned (splitSign (Text.trim text)).2 = false ∧
        ∃ magnitude, bodyMilliseconds? (splitSign (Text.trim text)).2 = some magnitude ∧
          length = if (splitSign (Text.trim text)).1 then -magnitude else magnitude := by
  unfold milliseconds?
  rcases splitSign (Text.trim text) with ⟨negative, body⟩
  simp only
  cases signed : beginsSigned body with
  | true => simp
  | false =>
      cases body with
      | nil => simp
      | cons c rest =>
          simp only [List.isEmpty_cons, Bool.or_self, Bool.false_eq_true, if_false,
            Option.map_eq_some_iff, ne_eq, reduceCtorEq, not_false_eq_true, true_and,
            eq_comm (a := length)]

/-- The sign of a text is that of a number, but blanks may follow it. -/
theorem splitSign_eq (text : List Char) :
    splitSign text = ((Binary64.readSign text).1,
      if beginsSigned text then Text.trimStart (Binary64.readSign text).2
        else (Binary64.readSign text).2) := by
  unfold splitSign
  split
  next => rfl
  next => rfl
  next noMinus noPlus =>
    cases text with
    | nil => rfl
    | cons c rest =>
        have minus : c ≠ '-' := fun same => noMinus rest (by rw [same])
        have plus : c ≠ '+' := fun same => noPlus rest (by rw [same])
        simp [Binary64.readSign, beginsSigned, minus, plus]

theorem lengthCharacter_of_splitSign (body : ∀ c ∈ (splitSign text).2, LengthCharacter c) :
    ∀ c ∈ text, LengthCharacter c := by
  rw [splitSign_eq] at body
  apply lengthCharacter_of_readSign
  split at body
  next => exact forall_mem_of_run (fun _ blank => Or.inl (.of_isBlank blank)) body
  next => exact body

/-- Every character of a duration text is a character of durations. -/
theorem lengthCharacter_of_milliseconds? {length : Binary64}
    (read : milliseconds? text = some length) :
    ∀ c ∈ text, LengthCharacter c := by
  have blanks : ∀ c, Text.isBlank c = true -> LengthCharacter c :=
    fun _ blank => Or.inl (.of_isBlank blank)
  rcases milliseconds?_eq_some_iff.mp read with ⟨_, _, magnitude, readBody, _⟩
  have trimmed := lengthCharacter_of_splitSign (lengthCharacter_of_bodyMilliseconds? readBody)
  rw [Text.trim, Text.trimEnd] at trimmed
  have backward : ∀ c ∈ (Text.trimStart text).reverse,
      LengthCharacter c := forall_mem_of_run blanks fun c listed =>
    trimmed c (List.mem_reverse.mpr listed)
  exact forall_mem_of_run blanks fun c listed => backward c (List.mem_reverse.mpr listed)

/-- The characters of durations that are neither digits nor blanks: the marks of numbers and rows,
and the letters of all spellings. -/
def lengthMarks : List Char :=
  ['.', ',', '+', '-', 'e', 'E'] ++ (Grain.all.flatMap spellings).flatMap String.toList

theorem LengthCharacter.digit_or_blank_or_mark (character : LengthCharacter c) :
    c.isDigit = true ∨ Text.isBlank c = true ∨ c ∈ lengthMarks := by
  have mark (listed : c ∈ ['.', ',', '+', '-', 'e', 'E']) : c ∈ lengthMarks :=
    List.mem_append_left _ listed
  rcases character with term | letter
  · cases term with
    | numeral numeral =>
        rw [isNumeral, Bool.or_eq_true, beq_iff_eq] at numeral
        rcases numeral with digit | rfl
        · exact Or.inl digit
        · exact Or.inr (Or.inr (mark (by decide)))
    | separator separator =>
        rw [isSeparator, Bool.or_eq_true, Bool.or_eq_true, beq_iff_eq, beq_iff_eq] at separator
        rcases separator with (blank | rfl) | rfl
        · exact Or.inr (Or.inl blank)
        · exact Or.inr (Or.inr (mark (by decide)))
        · exact Or.inr (Or.inr (mark (by decide)))
    | @letter grain spelling spelled letter =>
        have listed : spelling ∈ Grain.all.flatMap spellings :=
          List.mem_flatMap.mpr ⟨grain, grain.mem_all, spelled⟩
        exact Or.inr
          (Or.inr (List.mem_append_right _ (List.mem_flatMap.mpr ⟨spelling, listed, letter⟩)))
  · exact Or.inr (Or.inr (mark (List.mem_append_right ['.', ',', '+'] letter)))

end DurationText
end Chronometry
