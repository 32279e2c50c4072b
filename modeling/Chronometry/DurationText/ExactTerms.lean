import Chronometry.DurationText.Spelling
import Chronometry.Text.Blank
import Chronometry.Text.Digits

/-!
# Exact terms

The first grammar of duration text is a row of terms, each a number with a unit.  Blanks may stand
anywhere but within a unit.  A term is counted exactly, in words of 64 bits: whole parts in
nanoseconds for the grains below a second and in seconds for the others, fractions only where they
come out even.  Whatever does not fit makes the text unreadable for this grammar.
-/

namespace Chronometry
namespace DurationText

/-- A number with a unit, the digits still as written. -/
structure ExactTerm where
  whole : List Char
  fraction : Option (List Char)
  grain : Grain
deriving DecidableEq

/-- Digits with blanks among them, at the head of a text. -/
def isDigitOrBlank (c : Char) : Bool :=
  c.isDigit || Text.isBlank c

/-- The digits of a run of digits and blanks at the head of a text, and what follows the run. -/
def readSpacedDigits (text : List Char) : List Char × List Char :=
  ((text.takeWhile isDigitOrBlank).filter Char.isDigit, text.dropWhile isDigitOrBlank)

/-- The fraction of a number, if a point begins the text, and what follows it. -/
def readSpacedFraction : List Char -> Option (List Char) × List Char
  | '.' :: rest => (some (readSpacedDigits rest).1, (readSpacedDigits rest).2)
  | rest => (none, rest)

/-- The question whether a unit may end before this text: at its end, at a blank, or at the next
number. -/
def endsUnit : List Char -> Bool
  | [] => true
  | c :: _ => isDigitOrBlank c

/-- A term at the head of a text that begins with a digit, and what follows the term. -/
def readExactTerm (text : List Char) : Option (ExactTerm × List Char) :=
  if !(text.head?.any Char.isDigit) then none
  else
    let (whole, afterWhole) := readSpacedDigits text
    let (fraction, afterNumber) := readSpacedFraction afterWhole
    let word := afterNumber.takeWhile isUnitLetter
    let rest := afterNumber.dropWhile isUnitLetter
    match grainOf? word with
    | some grain => if endsUnit rest then some (⟨whole, fraction, grain⟩, rest) else none
    | none => none

theorem length_readSpacedFraction_le (text : List Char) :
    (readSpacedFraction text).2.length ≤ text.length := by
  unfold readSpacedFraction readSpacedDigits
  split
  · exact Nat.le_succ_of_le (List.dropWhile_sublist _).length_le
  · exact Nat.le_refl _

/-- A term takes at least its first digit from the text. -/
theorem length_readExactTerm {text rest : List Char} {term : ExactTerm}
    (read : readExactTerm text = some (term, rest)) : rest.length < text.length := by
  unfold readExactTerm at read
  split at read
  · contradiction
  next digit =>
    simp only at read
    split at read
    next grain named =>
      split at read
      next ends =>
        simp only [Option.some.injEq, Prod.mk.injEq] at read
        obtain ⟨_, same⟩ := read
        subst same
        match text with
        | [] => simp at digit
        | c :: cs =>
          have isDigit : c.isDigit = true := by simpa using digit
          refine Nat.lt_of_le_of_lt (List.dropWhile_sublist _).length_le ?_
          refine Nat.lt_of_le_of_lt (length_readSpacedFraction_le _) ?_
          rw [readSpacedDigits, List.dropWhile_cons_of_pos (by simp [isDigitOrBlank, isDigit])]
          exact Nat.lt_succ_of_le (List.dropWhile_sublist _).length_le
      · contradiction
    · contradiction

/-- The terms of a whole text, with blanks between them. -/
def exactTerms? (text : List Char) : Option (List ExactTerm) :=
  let body := Text.trimStart text
  if body.isEmpty then some []
  else match read : readExactTerm body with
    | some (term, rest) =>
      have : rest.length < text.length :=
        Nat.lt_of_lt_of_le (length_readExactTerm read) (List.dropWhile_sublist _).length_le
      (exactTerms? rest).map (term :: ·)
    | none => none
termination_by text.length

/-- A count, if it fits a word of 64 bits. -/
def word? (n : Nat) : Option Nat :=
  if n < UInt64.size then some n else none

/-- An exact quotient, if the division comes out even. -/
def evenQuotient? (n divisor : Nat) : Option Nat :=
  if n % divisor = 0 then some (n / divisor) else none

/-- A length of nanoseconds with more seconds and nanoseconds added, if every part of the sum fits
its word. -/
def extend? (length seconds nanoseconds : Nat) : Option Nat := do
  let carried ← word? (length % 1000000000 + nanoseconds)
  let _ ← word? (length / 1000000000 + seconds + carried / 1000000000)
  return length + seconds * 1000000000 + nanoseconds

/-- A length with the whole part of a term added. -/
def extendWhole? (length whole : Nat) (grain : Grain) : Option Nat :=
  match nominalSeconds? grain with
  | some seconds => do extend? length (← word? (whole * seconds)) 0
  | none => do extend? length 0 (← word? (whole * nominalNanoseconds grain))

/-- A length with a fraction of a unit added.  Fractions of an hour or a coarser unit must come out
in whole seconds, those of finer units in whole nanoseconds, and a nanosecond has no fractions. -/
def extendFraction? (length numerator denominator : Nat) (grain : Grain) : Option Nat :=
  if grain = .nanosecond then none
  else if Grain.hour.rank ≤ grain.rank then do
    let seconds ← evenQuotient? (← word? (numerator * (nominalSeconds? grain).getD 0)) denominator
    extend? length seconds 0
  else do
    let nanoseconds ← evenQuotient? (← word? (numerator * nominalNanoseconds grain)) denominator
    extend? length 0 nanoseconds

/-- A length of nanoseconds with a term added. -/
def extendTerm? (length : Nat) (term : ExactTerm) : Option Nat := do
  let whole ← word? (Text.natOfDigits term.whole)
  let length ← extendWhole? length whole term.grain
  match term.fraction with
  | none => return length
  | some [] => none
  | some digits =>
    let denominator ← word? (Nat.pow 10 digits.length)
    extendFraction? length (Text.natOfDigits digits) denominator term.grain

/-- The length of a text of exact terms in nanoseconds.  There must be at least one term. -/
def exactNanoseconds? (text : List Char) : Option Nat := do
  let terms ← exactTerms? text
  if terms.isEmpty then none else terms.foldlM extendTerm? 0

end DurationText
end Chronometry
