import Chronometry.Binary64.Reader
import Chronometry.DurationText.Spelling
import Chronometry.Text.Blank

/-!
# Decimal terms

The second grammar of duration text is a row of decimal magnitudes with units, separated by blanks,
commas and plus signs.  The terms are summed in binary64 from left to right.
-/

namespace Chronometry
namespace DurationText

/-- A magnitude with its unit. -/
structure DecimalTerm where
  magnitude : Binary64
  grain : Grain
deriving DecidableEq

/-- The characters of a magnitude. -/
def isNumeral (c : Char) : Bool :=
  c.isDigit || c == '.'

/-- The characters between two terms. -/
def isSeparator (c : Char) : Bool :=
  Text.isBlank c || c == ',' || c == '+'

/-- A term at the head of a text, and what follows it and its separators.  The unit is a run of unit
letters: a run that goes on in another letter names no unit, and what begins with another letter is
no term. -/
def readDecimalTerm (text : List Char) : Option (DecimalTerm × List Char) :=
  let numeral := text.takeWhile isNumeral
  let afterNumeral := Text.trimStart (text.dropWhile isNumeral)
  let word := afterNumeral.takeWhile isUnitLetter
  let rest := (afterNumeral.dropWhile isUnitLetter).dropWhile isSeparator
  if numeral.isEmpty then none
  else match Binary64.ofText? numeral, grainOf? word with
    | some magnitude, some grain => some (⟨magnitude, grain⟩, rest)
    | _, _ => none

/-- A term takes at least one character of its magnitude from the text. -/
theorem length_readDecimalTerm {text rest : List Char} {term : DecimalTerm}
    (read : readDecimalTerm text = some (term, rest)) : rest.length < text.length := by
  unfold readDecimalTerm at read
  simp only at read
  split at read
  · contradiction
  next numeral =>
    split at read
    next magnitude grain _ _ =>
      simp only [Option.some.injEq, Prod.mk.injEq] at read
      obtain ⟨_, same⟩ := read
      subst same
      have split : text.takeWhile isNumeral ++ text.dropWhile isNumeral = text :=
        List.takeWhile_append_dropWhile
      have taken : 0 < (text.takeWhile isNumeral).length := by
        cases run : text.takeWhile isNumeral with
        | nil => simp [run] at numeral
        | cons c cs => exact Nat.succ_pos _
      have shorter : (text.dropWhile isNumeral).length < text.length := by
        have lengths := congrArg List.length split
        rw [List.length_append] at lengths
        omega
      refine Nat.lt_of_le_of_lt (List.dropWhile_sublist _).length_le ?_
      refine Nat.lt_of_le_of_lt (List.dropWhile_sublist _).length_le ?_
      exact Nat.lt_of_le_of_lt (List.dropWhile_sublist _).length_le shorter
    · contradiction

/-- The terms of a whole text. -/
def decimalTerms? (text : List Char) : Option (List DecimalTerm) :=
  if text.isEmpty then some []
  else match read : readDecimalTerm text with
    | some (term, rest) =>
      have := length_readDecimalTerm read
      (decimalTerms? rest).map (term :: ·)
    | none => none
termination_by text.length

/-- The sum of terms in milliseconds, from left to right. -/
def sumMilliseconds (terms : List DecimalTerm) : Binary64 :=
  terms.foldl (fun total term =>
    total + term.magnitude * millisecondsOf (nominalNanoseconds term.grain)) 0

/-- The length of a text of decimal terms in milliseconds. -/
def decimalMilliseconds? (text : List Char) : Option Binary64 :=
  (decimalTerms? text).map sumMilliseconds

end DurationText
end Chronometry
