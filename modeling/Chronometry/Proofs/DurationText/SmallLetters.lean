import Chronometry.Proofs.DateText.FoldCase
import Chronometry.Proofs.DurationText.Characters

/-!
# Duration text in small letters

A bare number reads the same in small letters, because its letters count in any case.  The terms do
not: their units are spelled in one case only.  But every spelling is in small letters already,
except for the single letter of the month, and between the spellings there are no letters at all.  A
text of terms without that letter is therefore not changed by folding, and a duration text without
it denotes the same length in small letters.
-/

namespace Chronometry

open DateText

/-! ## Numbers -/

namespace Binary64

theorem readSign_of_unsigned {c : Char} (rest : List Char) (noMinus : c ≠ '-')
    (noPlus : c ≠ '+') :
    readSign (c :: rest) = (false, c :: rest) := by
  unfold readSign
  split
  next same => exact absurd (List.cons.inj same).1 noMinus
  next same => exact absurd (List.cons.inj same).1 noPlus
  next => rfl

theorem readSign_map_foldCase (text : List Char) :
    readSign (text.map foldCase) = ((readSign text).1, (readSign text).2.map foldCase) := by
  cases text with
  | nil => rfl
  | cons c rest =>
      by_cases minus : c = '-'
      · subst minus
        rfl
      · by_cases plus : c = '+'
        · subst plus
          rfl
        · have noMinus : foldCase c ≠ '-' :=
            mt (foldCase_eq_iff (by decide) (by decide)).mp minus
          have noPlus : foldCase c ≠ '+' := mt (foldCase_eq_iff (by decide) (by decide)).mp plus
          rw [List.map_cons, readSign_of_unsigned _ noMinus noPlus,
            readSign_of_unsigned _ minus plus, List.map_cons]

theorem all_isDigit_map_foldCase (text : List Char) :
    (text.map foldCase).all Char.isDigit = text.all Char.isDigit := by
  rw [List.all_map]
  exact congrArg text.all (funext isDigit_foldCase)

theorem exponent?_map_foldCase (text : List Char) :
    exponent? (text.map foldCase) = exponent? text := by
  cases text with
  | nil => rfl
  | cons c rest =>
      simp only [List.map_cons, exponent?, foldCase_eq_exponent_iff, readSign_map_foldCase,
        List.isEmpty_map, all_isDigit_map_foldCase]
      split
      next =>
        split
        next => rfl
        next readable =>
          simp only [Bool.or_eq_true, Bool.not_eq_true', not_or, Bool.not_eq_false] at readable
          rw [map_foldCase_eq_self fun c listed => foldCase_of_isDigit (List.all_eq_true.mp
            readable.2 c listed)]
      next => rfl

theorem spanDigits_map_foldCase (text : List Char) :
    Text.spanDigits (text.map foldCase) =
      ((Text.spanDigits text).1, (Text.spanDigits text).2.map foldCase) := by
  rw [Text.spanDigits, digits_map_foldCase, dropWhile_map_foldCase isDigit_foldCase,
    Text.spanDigits]

theorem readFraction_of_pointless {c : Char} (rest : List Char) (noPoint : c ≠ '.') :
    readFraction (c :: rest) = ([], c :: rest) := by
  unfold readFraction
  split
  next same => exact absurd (List.cons.inj same).1 noPoint
  next => rfl

theorem readFraction_map_foldCase (text : List Char) :
    readFraction (text.map foldCase) =
      ((readFraction text).1, (readFraction text).2.map foldCase) := by
  cases text with
  | nil => rfl
  | cons c rest =>
      by_cases point : c = '.'
      · subst point
        exact spanDigits_map_foldCase rest
      · have noPoint : foldCase c ≠ '.' := mt (foldCase_eq_iff (by decide) (by decide)).mp point
        rw [List.map_cons, readFraction_of_pointless _ noPoint, readFraction_of_pointless _ point,
          List.map_cons]

theorem decimal?_map_foldCase (negative : Bool) (body : List Char) :
    decimal? negative (body.map foldCase) = decimal? negative body := by
  simp only [decimal?, spanDigits_map_foldCase, readFraction_map_foldCase, exponent?_map_foldCase]

/-- A text is a word in any case exactly when it is after folding, unless the word has the letter of
the Kelvin sign. -/
theorem word_map_foldCase_iff (text word : List Char) (notK : 'k' ∉ word)
    (notKelvin : '\u212a' ∉ word) :
    (text.map foldCase).map Char.toLower = word ↔ text.map Char.toLower = word := by
  induction text generalizing word with
  | nil => exact Iff.rfl
  | cons c rest inductionHypothesis =>
      cases word with
      | nil => simp
      | cons letter letters =>
          simp only [List.mem_cons, not_or] at notK notKelvin
          simp only [List.map_cons, List.cons.injEq, toLower_foldCase_eq_iff (Ne.symm
            notK.1) (Ne.symm notKelvin.1), inductionHypothesis letters notK.2 notKelvin.2]

/-- Numbers are read in any case. -/
theorem ofText?_map_foldCase (text : List Char) : ofText? (text.map foldCase) = ofText? text := by
  have words : ∀ word : String, 'k' ∉ word.toList -> '\u212a' ∉ word.toList -> ∀ body : List Char,
      (String.ofList ((body.map foldCase).map Char.toLower) = word ↔
        String.ofList (body.map Char.toLower) = word) := by
    intro word notK notKelvin body
    rw [← String.toList_inj, String.toList_ofList, ← String.toList_inj, String.toList_ofList]
    exact word_map_foldCase_iff body word.toList notK notKelvin
  have inf := words "inf" (by decide) (by decide)
  have infinity := words "infinity" (by decide) (by decide)
  have nan := words "nan" (by decide) (by decide)
  simp only [ofText?, readSign_map_foldCase, inf, infinity, nan, decimal?_map_foldCase]

end Binary64
namespace DurationText

/-! ## Terms -/

/-- A small letter, a character that is no letter, or the letter of the month. -/
def SmallOrMonth (c : Char) : Prop :=
  foldCase c = c ∨ c = 'M'

/-- Units are spelled in small letters, but for the letter of the month. -/
theorem smallOrMonth_of_spelling {grain : Grain} {spelling : String}
    (spelled : spelling ∈ spellings grain) {c : Char} (letter : c ∈ spelling.toList) :
    SmallOrMonth c := by
  have every : ∀ grain ∈ Grain.all, ∀ spelling ∈ spellings grain,
      spelling.toList.all (fun c => foldCase c == c || c == 'M') = true := by
    decide
  have small := List.all_eq_true.mp (every grain grain.mem_all _ spelled) c letter
  rwa [Bool.or_eq_true, beq_iff_eq, beq_iff_eq] at small

/-- Terms are in small letters, but for the letter of the month. -/
theorem TermCharacter.smallOrMonth {c : Char} (term : TermCharacter c) : SmallOrMonth c := by
  cases term with
  | numeral numeral =>
      rw [isNumeral, Bool.or_eq_true, beq_iff_eq] at numeral
      rcases numeral with digit | rfl
      · exact Or.inl (foldCase_of_isDigit digit)
      · exact Or.inl rfl
  | separator separator =>
      rw [isSeparator, Bool.or_eq_true, Bool.or_eq_true, beq_iff_eq, beq_iff_eq] at separator
      rcases separator with (blank | rfl) | rfl
      · exact Or.inl (foldCase_of_isBlank blank)
      · exact Or.inl rfl
      · exact Or.inl rfl
  | letter spelled letter => exact smallOrMonth_of_spelling spelled letter

/-! ## Whole texts -/

/-- A body that is read denotes the same length in small letters, if it has no letter of the
month. -/
theorem bodyMilliseconds?_map_foldCase {body : List Char} {length : Binary64}
    (read : bodyMilliseconds? body = some length) (noMonth : 'M' ∉ body) :
    bodyMilliseconds? (body.map foldCase) = some length := by
  have kept (terms : ∀ c ∈ body, TermCharacter c) : body.map foldCase = body := by
    apply map_foldCase_eq_self
    intro c listed
    refine (terms c listed).smallOrMonth.resolve_right ?_
    rintro rfl
    exact noMonth listed
  cases number : Binary64.ofText? body with
  | some value =>
      rw [bodyMilliseconds?, Binary64.ofText?_map_foldCase, number]
      rwa [bodyMilliseconds?, number] at read
  | none =>
      have terms := read
      rw [bodyMilliseconds?, number] at terms
      cases exact : exactNanoseconds? body with
      | some nanoseconds =>
          rcases Option.bind_eq_some_iff.mp exact with ⟨exactTerms, readTerms, _⟩
          rw [kept (termCharacter_of_exactTerms? readTerms), read]
      | none =>
          simp only [exact] at terms
          rcases Option.map_eq_some_iff.mp terms with ⟨decimalTerms, readTerms, _⟩
          rw [kept (termCharacter_of_decimalTerms? readTerms), read]

theorem beginsSigned_of_unsigned {c : Char} (rest : List Char) (noMinus : c ≠ '-')
    (noPlus : c ≠ '+') :
    beginsSigned (c :: rest) = false := by
  rw [beginsSigned, Bool.or_eq_false_iff, beq_eq_false_iff_ne, beq_eq_false_iff_ne]
  exact ⟨noPlus, noMinus⟩

theorem splitSign_of_unsigned {c : Char} (rest : List Char) (noMinus : c ≠ '-')
    (noPlus : c ≠ '+') :
    splitSign (c :: rest) = (false, c :: rest) := by
  rw [splitSign_eq, Binary64.readSign_of_unsigned rest noMinus noPlus,
    beginsSigned_of_unsigned rest noMinus noPlus, if_neg Bool.false_ne_true]

theorem beginsSigned_map_foldCase (text : List Char) :
    beginsSigned (text.map foldCase) = beginsSigned text := by
  cases text with
  | nil => rfl
  | cons c rest =>
      have plus : foldCase c = '+' ↔ c = '+' := foldCase_eq_iff (by decide) (by decide)
      have minus : foldCase c = '-' ↔ c = '-' := foldCase_eq_iff (by decide) (by decide)
      rw [Bool.eq_iff_iff]
      simp only [List.map_cons, beginsSigned, Bool.or_eq_true, beq_iff_eq, plus, minus]

theorem splitSign_map_foldCase (text : List Char) :
    splitSign (text.map foldCase) = ((splitSign text).1, (splitSign text).2.map foldCase) := by
  rw [splitSign_eq, splitSign_eq, Binary64.readSign_map_foldCase, beginsSigned_map_foldCase,
    trimStart_map_foldCase, apply_ite (List.map foldCase)]

/-- The body of a text is part of the text. -/
theorem mem_of_mem_splitSign {text : List Char} {c : Char} (listed : c ∈ (splitSign text).2) :
    c ∈ text := by
  unfold splitSign at listed
  split at listed
  next rest => exact List.mem_cons_of_mem _ ((List.dropWhile_sublist _).mem listed)
  next rest => exact List.mem_cons_of_mem _ ((List.dropWhile_sublist _).mem listed)
  next => exact listed

theorem mem_of_mem_trim {text : List Char} {c : Char} (listed : c ∈ Text.trim text) :
    c ∈ text := by
  rw [Text.trim, Text.trimEnd, List.mem_reverse] at listed
  exact (List.dropWhile_sublist _).mem (List.mem_reverse.mp ((List.dropWhile_sublist _).mem listed))

/-- A text without the letter of the month denotes the same length in small letters. -/
theorem milliseconds?_map_foldCase {text : List Char} {length : Binary64}
    (read : milliseconds? text = some length) (noMonth : 'M' ∉ text) :
    milliseconds? (text.map foldCase) = some length := by
  rcases milliseconds?_eq_some_iff.mp read with ⟨nonempty, unsigned, magnitude, readBody, rfl⟩
  have noMonthInBody : 'M' ∉ (splitSign (Text.trim text)).2 := fun listed =>
    noMonth (mem_of_mem_trim (mem_of_mem_splitSign listed))
  rw [milliseconds?_eq_some_iff, trim_map_foldCase, splitSign_map_foldCase,
    beginsSigned_map_foldCase]
  exact ⟨mt List.map_eq_nil_iff.mp nonempty, unsigned, magnitude,
    bodyMilliseconds?_map_foldCase readBody noMonthInBody, rfl⟩

end DurationText
end Chronometry
